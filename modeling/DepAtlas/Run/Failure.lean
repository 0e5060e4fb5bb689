import DepAtlas.Config.Layers
import DepAtlas.Files.Locate
import DepAtlas.Source.Analysis
import DepAtlas.Tool.Basic

set_option autoImplicit false

/-!
# Failures of a run

## Main definitions

* `Failure` — why a run cannot be finished.
* `Failure.message` — what is said about it.
-/

namespace DepAtlas

/-- Why a run cannot be finished. -/
inductive Failure where
  | noFiles (path : String)
  | badGlob
  | badPattern
  | config (error : ConfigError)
  | sourceSyntax (error : Source.FileSyntaxError)
  | unreadableTrace (path : String)
  | badTrace (path : String)
  | tool (name : String) (fault : ToolFault)
  /-- a file could not be written -/
  | io
deriving DecidableEq, Repr

/-- The failure that an error of locating stands for. -/
def Failure.ofLocate : LocateError → Failure
  | .noFiles path => .noFiles path
  | .badGlob => .badGlob

/-- The failure that an error of an invocation stands for. -/
def Failure.ofInvocation : InvocationError → Failure
  | .tool name fault => .tool name fault
  | .io => .io

/-- What is said about a syntax error in a file. -/
def Source.FileSyntaxError.message (e : Source.FileSyntaxError) : String :=
  "Syntax error in " ++ e.file ++ " at line " ++ toString e.error.line ++ ", column "
    ++ toString e.error.column ++ ": " ++ e.error.fault.message

/-- What is said about a failure. Where another library would explain it, only its first words are
said. -/
def Failure.message : Failure → String
  | noFiles path => "No analyzable files found in " ++ path
  | badGlob => "Invalid glob pattern"
  | badPattern => "Invalid exclude pattern"
  | config error => error.message
  | sourceSyntax error => error.message
  | unreadableTrace path => "Could not read " ++ path
  | badTrace path => "Invalid trace file " ++ path
  | tool name fault => fault.message name
  | io => "Could not write the output"

end DepAtlas
