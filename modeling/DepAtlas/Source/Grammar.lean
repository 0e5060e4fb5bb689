import DepAtlas.Source.Token

set_option autoImplicit false

/-!
# The grammar of Rust source

The grammar is a table: a form for every rule. Choices are ordered, and repetitions take as much
as they can. Keywords are keywords only where they may stand; elsewhere they are names.

## Main definitions

* `Form` — what a piece of source may look like.
* `Rule` — the names of the forms.
* `Rule.form` — the table.
-/

namespace DepAtlas.Source

/-- The pieces of source that have a name. A flag tells whether an expression may end in a record
in braces, which it may not where a block has to follow. -/
inductive Rule where
  | source
  | statement
  | closedStatement
  | declaration
  | declarations
  | block
  | attributeItem
  | visibility
  | useDeclaration
  | useClause
  | usePath
  | useGlob
  | useRenamed
  | useList
  | useGroup
  | modulePath
  | letDeclaration
  | functionItem
  | functionHead
  | functionModifier
  | parameters
  | parameter
  | structItem
  | enumItem
  | unionItem
  | fields
  | tupleFields
  | variants
  | traitItem
  | implItem
  | moduleItem
  | foreignItem
  | constItem
  | staticItem
  | typeItem
  | associatedType
  | externCrate
  | macroDefinition
  | macroCall
  | tokenTree
  | type
  | plainType
  | namedType
  | typeArguments
  | typeParameters
  | typeParameter
  | bounds
  | whereClause
  | lifetime
  | pattern
  | plainPattern
  | fieldPattern
  | numberOrText
  | literal
  | expression (records : Bool)
  /-- a range without a left side, which begins with two points whatever follows them -/
  | openRange (records : Bool)
  | operand (records : Bool)
  | prefixed (records : Bool)
  | primary (records : Bool)
  | named (records : Bool)
  | closure (records : Bool)
  | leaving (records : Bool)
  | following (records : Bool)
  | postfixed
  | blockLike
  | ifExpression
  | matchExpression
  | matchArm
  | path
  | pathHead
  | pathSegment
  | record
  | recordField
  | continuation
deriving DecidableEq, Repr

/-- What a piece of source may look like. -/
inductive Form where
  /-- a keyword -/
  | keyword (text : String)
  /-- a word that is none of these keywords -/
  | name (keywords : List String)
  /-- a token of a kind -/
  | token (kind : TokenKind)
  /-- a single mark, also as a part of a longer operator -/
  | mark (c : Char)
  /-- an operator, which no longer one begins with -/
  | operator (texts : List String)
  /-- any token that neither opens nor closes a group -/
  | plainToken
  | rule (r : Rule)
  /-- one form after the other -/
  | all (forms : List Form)
  /-- the first of the forms that fits -/
  | any (forms : List Form)
  /-- a form as often as it fits -/
  | many (form : Form)
  /-- the form does not fit here; takes nothing -/
  | absent (form : Form)
  /-- the form fits here; takes nothing -/
  | ahead (form : Form)
deriving Repr, Inhabited

namespace Form

/-- The form, or nothing. -/
def maybe (f : Form) : Form := .any [f, .all []]

/-- The form at least once, with a separator between neighbours. -/
def joined (separator f : Form) : Form := .all [f, .many (.all [separator, f])]

/-- The form any number of times with commas between and perhaps one behind. -/
def list (f : Form) : Form :=
  .all [maybe (joined (mark ',') f), maybe (mark ',')]

/-- The form at least once with commas between and perhaps one behind. -/
def list1 (f : Form) : Form :=
  .all [joined (mark ',') f, maybe (mark ',')]

/-- A form in round brackets. -/
def inRound (f : Form) : Form := .all [mark '(', f, mark ')']

/-- A form in square brackets. -/
def inSquare (f : Form) : Form := .all [mark '[', f, mark ']']

/-- A form in braces. -/
def inBraces (f : Form) : Form := .all [mark '\x7b', f, mark '\x7d']

/-- Any word, as the name of something that is declared. -/
def anyName : Form := name []

/-- A path separator. -/
def scope : Form := operator ["::"]

/-- The arrow in front of a result type. -/
def arrow : Form := .all [mark '-', mark '>']

/-- Attributes in front of something. -/
def attributes : Form := many (rule .attributeItem)

/-- A range operator with its right side: two points may stand without one. The longer operators are
tried first. -/
def rangeTo (side : Form) : Form :=
  .any [.all [operator ["...", "..="], side], .all [operator [".."], maybe side]]

/-- A label of a loop or a block, without the colon. -/
def label : Form := all [mark '\'', anyName]

end Form

open Form

/-! ## Words and operators -/

/-- Every operator of more than one mark. -/
def longOperators : List String :=
  ["<<=", ">>=", "...", "..=", "=>", "==", "!=", "<=", ">=", "&&", "||", "<<", ">>", "+=", "-=",
   "*=", "/=", "%=", "^=", "&=", "|=", "->", "..", "::"]

/-- The operators between two operands. -/
def binaryOperators : List String :=
  ["&&", "||", "&", "|", "^", "==", "!=", "<", "<=", ">", ">=", "<<", ">>", "+", "-", "*", "/",
   "%", "=", "+=", "-=", "*=", "/=", "%=", "&=", "|=", "^=", "<<=", ">>="]

/-- The operators that go on with an expression behind a closed block, where all others begin a new
statement. A star or an ampersand behind a block is such a beginning. -/
def continuing : List String :=
  [".", "?", "&&", "||", "^", "==", "!=", "<=", ">", ">=", "<<", ">>", "+", "/", "%", "=", "+=",
   "-=", "*=", "/=", "%=", "&=", "|=", "^=", "<<=", ">>=", "...", "..="]

/-- The words that are no names in an expression. -/
def expressionKeywords : List String :=
  ["pub", "const", "static", "mod", "extern", "struct", "enum", "type", "fn", "async", "unsafe",
   "impl", "trait", "let", "use", "return", "yield", "break", "continue", "if", "match", "while",
   "loop", "for", "true", "false", "try", "move", "ref", "mut", "self", "super", "crate"]

/-- The words that are no names in a type. -/
def typeKeywords : List String :=
  ["impl", "for", "fn", "unsafe", "extern", "async", "const", "dyn", "self", "super", "crate"]

/-! ## The table -/

namespace Rule

/-- The rules whose pieces are kept as nodes of the tree. -/
def isNode : Rule → Bool
  | statement | structItem | enumItem | unionItem | traitItem | functionItem | useDeclaration
  | usePath | useGlob | useRenamed | useList | useGroup => true
  | _ => false

/-- Statements and blocks. A statement at the top ends in a semicolon; one in a block may also be
the last of it. -/
def statementForm : Rule → Form
  | source => all [many (rule statement), token .finish]
  | statement =>
    any
      [rule declaration, all [rule blockLike, absent (rule continuation)],
       all [rule (expression true), mark ';'], rule macroCall]
  | closedStatement =>
    any
      [rule declaration, all [rule blockLike, absent (rule continuation)],
       all [rule (expression true), any [mark ';', ahead (mark '\x7d')]], rule macroCall]
  | block => all [maybe (all [label, mark ':']), inBraces (many (rule closedStatement))]
  | declarations => inBraces (many (any [rule declaration, rule macroCall]))
  | declaration =>
    any
      [mark ';', rule attributeItem, rule useDeclaration, rule letDeclaration, rule functionItem,
       all [rule functionHead, mark ';'], rule structItem, rule enumItem, rule unionItem,
       rule traitItem, rule implItem, rule moduleItem, rule foreignItem, rule constItem,
       rule staticItem, rule typeItem, rule associatedType, rule externCrate,
       rule macroDefinition]
  | letDeclaration =>
    all
      [keyword "let", rule pattern, maybe (all [operator [":"], rule type]),
       maybe (all [operator ["="], rule (expression true)]),
       maybe (all [keyword "else", rule block]), mark ';']
  | continuation => any [operator continuing, keyword "as"]
  | _ => any []

/-- What stands in front of items, and items that name others. The clauses of a use declaration that
go on behind a path come before the path alone, which would fit at the front of each. -/
def useForm : Rule → Form
  | attributeItem =>
    all
      [mark '#', maybe (mark '!'),
       inSquare (all
         [rule modulePath,
          maybe (any [all [operator ["="], rule (expression true)], rule tokenTree])])]
  | visibility =>
    any
      [all
        [keyword "pub",
         maybe (inRound (any
           [all [keyword "in", rule modulePath], keyword "self", keyword "super",
            keyword "crate"]))],
       all [keyword "crate", absent scope]]
  | modulePath =>
    all
      [any [anyName, token .metavariable, all [scope, anyName]], many (all [scope, anyName])]
  | useDeclaration =>
    all [maybe (rule visibility), keyword "use", rule useClause, mark ';']
  | useClause =>
    any [rule useGlob, rule useGroup, rule useRenamed, rule useList, rule usePath]
  | usePath => rule modulePath
  | useGlob => all [maybe (all [maybe (rule modulePath), scope]), mark '*']
  | useRenamed => all [rule usePath, keyword "as", anyName]
  | useList => inBraces (list (rule useClause))
  | useGroup => all [maybe (rule usePath), scope, rule useList]
  | externCrate =>
    all
      [maybe (rule visibility), keyword "extern", keyword "crate", anyName,
       maybe (all [keyword "as", anyName]), mark ';']
  | _ => any []

/-- Items that declare something. A comma may stand behind the last field, parameter or variant. -/
def itemForm : Rule → Form
  | functionModifier =>
    any
      [keyword "async", keyword "default", keyword "const", keyword "unsafe",
       all [keyword "extern", maybe (token .string)]]
  | functionHead =>
    all
      [maybe (rule visibility), many (rule functionModifier), keyword "fn",
       any [anyName, token .metavariable], maybe (rule typeParameters), rule parameters,
       maybe (all [arrow, rule type]), maybe (rule whereClause)]
  | functionItem => all [rule functionHead, rule block]
  | parameters => inRound (list (all [maybe (rule attributeItem), rule parameter]))
  | parameter =>
    any
      [all
        [maybe (mark '&'), maybe (rule lifetime), maybe (keyword "mut"), keyword "self",
         absent (any [operator [":"], scope])],
       all
        [maybe (keyword "mut"), any [keyword "self", rule pattern], operator [":"], rule type],
       all
        [maybe (keyword "mut"), maybe (all [rule pattern, operator [":"]]), operator ["..."]],
       rule type]
  | structItem =>
    all
      [maybe (rule visibility), keyword "struct", anyName, maybe (rule typeParameters),
       any
        [all [maybe (rule whereClause), rule fields],
         all [rule tupleFields, maybe (rule whereClause), mark ';'], mark ';']]
  | unionItem =>
    all
      [maybe (rule visibility), keyword "union", anyName, maybe (rule typeParameters),
       maybe (rule whereClause), rule fields]
  | enumItem =>
    all
      [maybe (rule visibility), keyword "enum", anyName, maybe (rule typeParameters),
       maybe (rule whereClause), rule variants]
  | fields =>
    inBraces (list
      (all [attributes, maybe (rule visibility), anyName, operator [":"], rule type]))
  | tupleFields => inRound (list (all [attributes, maybe (rule visibility), rule type]))
  | variants =>
    inBraces (list
      (all
        [attributes, maybe (rule visibility), anyName,
         maybe (any [rule fields, rule tupleFields]),
         maybe (all [operator ["="], rule (expression true)])]))
  | traitItem =>
    all
      [maybe (rule visibility), maybe (keyword "unsafe"), keyword "trait", anyName,
       maybe (rule typeParameters), maybe (rule bounds), maybe (rule whereClause),
       rule declarations]
  | implItem =>
    all
      [maybe (keyword "unsafe"), keyword "impl", maybe (rule typeParameters),
       any [all [maybe (mark '!'), rule plainType, keyword "for", rule type], rule type],
       maybe (rule whereClause), any [rule declarations, mark ';']]
  | moduleItem =>
    all
      [maybe (rule visibility), keyword "mod", anyName, any [mark ';', rule declarations]]
  | foreignItem =>
    all
      [maybe (rule visibility), keyword "extern", maybe (token .string),
       any [mark ';', rule declarations]]
  | constItem =>
    all
      [maybe (rule visibility), keyword "const", anyName, operator [":"], rule type,
       maybe (all [operator ["="], rule (expression true)]), mark ';']
  | staticItem =>
    all
      [maybe (rule visibility), keyword "static", maybe (keyword "ref"), maybe (keyword "mut"),
       anyName, operator [":"], rule type,
       maybe (all [operator ["="], rule (expression true)]), mark ';']
  | typeItem =>
    all
      [maybe (rule visibility), keyword "type", anyName, maybe (rule typeParameters),
       maybe (rule whereClause), operator ["="], rule type, maybe (rule whereClause), mark ';']
  | associatedType =>
    all
      [keyword "type", anyName, maybe (rule typeParameters), maybe (rule bounds),
       maybe (rule whereClause), mark ';']
  | _ => any []

/-- Definitions and calls of macros. What is inside of their brackets is any sequence of tokens in
which brackets match. -/
def macroForm : Rule → Form
  | macroDefinition =>
    let rules := all
      [many (all [rule tokenTree, operator ["=>"], rule tokenTree, mark ';']),
       maybe (all [rule tokenTree, operator ["=>"], rule tokenTree])]
    all
      [keyword "macro_rules", operator ["!"], anyName,
       any [inBraces rules, all [any [inRound rules, inSquare rules], mark ';']]]
  | macroCall => all [rule path, operator ["!"], rule tokenTree]
  | tokenTree =>
    let trees := many (any [plainToken, rule tokenTree])
    any [inRound trees, inSquare trees, inBraces trees]
  | _ => any []

/-- Types. -/
def typeForm : Rule → Form
  | lifetime => all [mark '\'', anyName]
  | type =>
    any
      [all [rule lifetime, operator ["+"], rule type],
       all [rule plainType, many (all [operator ["+"], any [rule lifetime, rule plainType]])]]
  | plainType =>
    any
      [all [mark '&', maybe (rule lifetime), maybe (keyword "mut"), rule plainType],
       all [mark '*', any [keyword "const", keyword "mut"], rule plainType],
       inRound (maybe (list1 (rule type))),
       inSquare (all [rule type, maybe (all [mark ';', rule (expression true)])]),
       all
        [any [keyword "impl", keyword "dyn"],
         maybe (all [keyword "for", rule typeParameters]), rule plainType],
       all [keyword "for", rule typeParameters, rule plainType],
       all
        [many (rule functionModifier), keyword "fn", rule parameters,
         maybe (all [arrow, rule type])],
       mark '!', all [mark '?', rule plainType],
       all [rule modulePath, operator ["!"], rule tokenTree], token .metavariable,
       rule namedType]
  | namedType =>
    all
      [any
        [all [mark '<', rule type, maybe (all [keyword "as", rule type]), mark '>', scope, anyName],
         all [any [keyword "self", keyword "super", keyword "crate"], scope, anyName],
         all [scope, anyName], all [token .metavariable, scope, anyName], name typeKeywords],
       many (any [all [scope, any [anyName, rule typeArguments]], rule typeArguments]),
       maybe (all [rule parameters, maybe (all [arrow, rule plainType])])]
  | typeArguments =>
    all
      [mark '<',
       list1 (all
        [any [rule type, rule lifetime, rule literal, rule block],
         maybe (all [operator ["="], rule type]), maybe (rule bounds)]),
       mark '>']
  | typeParameters => all [mark '<', list1 (all [attributes, rule typeParameter]), mark '>']
  | typeParameter =>
    any
      [all [rule lifetime, maybe (rule bounds)],
       all
        [keyword "const", anyName, operator [":"], rule type,
         maybe (all [operator ["="], any [rule block, rule numberOrText, anyName]])],
       token .metavariable,
       all [anyName, maybe (rule bounds), maybe (all [operator ["="], rule type])]]
  | bounds =>
    all
      [operator [":"],
       joined (operator ["+"])
        (any [rule lifetime, all [keyword "for", rule typeParameters, rule type],
          rule plainType])]
  | whereClause =>
    all
      [keyword "where",
       maybe (list1 (all
        [any [rule lifetime, all [keyword "for", rule typeParameters, rule type],
          rule plainType], rule bounds]))]
  | _ => any []

/-- Patterns and literals. -/
def patternForm : Rule → Form
  | literal =>
    any
      [token .integer, token .float, token .string, token .character, keyword "true",
       keyword "false"]
  | numberOrText => any [rule literal, all [mark '-', any [token .integer, token .float]]]
  | pattern =>
    all [maybe (mark '|'), rule plainPattern, many (all [mark '|', rule plainPattern])]
  | plainPattern =>
    let limit := any [rule numberOrText, rule path]
    let range := rangeTo limit
    any
      [all [rule numberOrText, maybe range],
       any [all [operator ["..", "..="], limit], operator [".."]],
       all [any [keyword "ref", keyword "mut"], rule plainPattern],
       all [mark '&', maybe (keyword "mut"), rule plainPattern],
       inRound (list (any [rule pattern, rule (closure true)])), inSquare (list (rule pattern)),
       all [keyword "const", rule block],
       all [name expressionKeywords, mark '@', rule plainPattern],
       all
        [rule path,
         maybe (any
          [all [operator ["!"], rule tokenTree], inRound (list (rule pattern)),
           inBraces (list (rule fieldPattern)), range])]]
  | fieldPattern =>
    any
      [operator [".."],
       all
        [maybe (keyword "ref"), maybe (keyword "mut"),
         any
          [all [any [anyName, token .integer], operator [":"], rule pattern], anyName]]]
  | _ => any []

/-- Expressions by their operators. -/
def operatorForm : Rule → Form
  | expression records =>
    let link := any [rule (openRange records), rule (operand records)]
    all
      [link,
       many (any
        [rangeTo (rule (following records)), all [operator binaryOperators, link]])]
  | openRange records => all [mark '.', mark '.', maybe (rule (following records))]
  | following true => rule (operand true)
  | following false => all [absent (mark '\x7b'), rule (operand false)]
  | operand records =>
    all
      [many (rule (prefixed records)), rule (primary records), many (rule postfixed),
       many (all [keyword "as", rule plainType])]
  | prefixed records =>
    any
      ([mark '-', mark '*', mark '!',
        all
          [mark '&',
           maybe (any [all [keyword "raw", any [keyword "const", keyword "mut"]], keyword "mut"])]]
        ++ if records then [] else [all [keyword "let", rule pattern, operator ["="]]])
  | postfixed =>
    any
      [operator ["?"],
       all
        [operator ["."],
         any [token .integer, all [anyName, maybe (all [scope, rule typeArguments])]]],
       inRound (list (all [attributes, rule (expression true)])),
       inSquare (rule (expression true))]
  | _ => any []

/-- The operands of expressions. -/
def primaryForm : Rule → Form
  | primary records =>
    any
      [rule literal, rule (closure records), rule blockLike, rule (leaving records),
       inRound (all
        [attributes,
         maybe (all
          [rule (expression true), many (all [mark ',', rule (expression true)]),
           maybe (mark ',')])]),
       inSquare (maybe (all
        [attributes, rule (expression true),
         any
          [all [mark ';', rule (expression true)],
           all
            [many (all [mark ',', attributes, rule (expression true)]), maybe (mark ',')]]])),
       rule (named records)]
  | named records =>
    all
      [rule path,
       maybe (any
        (all [operator ["!"], rule tokenTree] :: if records then [rule record] else []))]
  | closure records =>
    all
      [maybe (keyword "static"), maybe (keyword "async"), maybe (keyword "move"), mark '|',
       maybe (joined (mark ',')
        (all [rule plainPattern, maybe (all [operator [":"], rule type])])), mark '|',
       any [all [arrow, rule type, rule block], rule (expression records)]]
  | leaving records =>
    let value := if records then rule (expression true)
      else all [absent (mark '\x7b'), rule (expression false)]
    any
      [all [any [keyword "return", keyword "yield"], maybe value],
       all [keyword "break", maybe label, maybe value], all [keyword "continue", maybe label]]
  | path => all [any [rule pathHead, rule pathSegment], many (rule pathSegment)]
  | pathHead =>
    any
      [all [mark '<', rule type, maybe (all [keyword "as", rule type]), mark '>', ahead scope],
       all [any [keyword "super", keyword "crate"], ahead scope], keyword "self",
       token .metavariable, name expressionKeywords]
  | pathSegment => all [scope, any [anyName, rule typeArguments]]
  | record => inBraces (list (rule recordField))
  | recordField =>
    any
      [all [operator [".."], rule (expression true)],
       all
        [attributes,
         any
          [all [any [anyName, token .integer], operator [":"], rule (expression true)],
           anyName]]]
  | _ => any []

/-- Expressions that end in a block. -/
def blockForm : Rule → Form
  | blockLike =>
    let labelled := maybe (all [label, mark ':'])
    any
      [rule block, rule ifExpression, rule matchExpression,
       all [labelled, keyword "loop", rule block],
       all [labelled, keyword "while", rule (expression false), rule block],
       all
        [labelled, keyword "for", rule pattern, keyword "in", rule (expression false), rule block],
       all [any [keyword "unsafe", keyword "try", keyword "const"], rule block],
       all [any [keyword "async", keyword "gen"], maybe (keyword "move"), rule block]]
  | ifExpression =>
    all
      [keyword "if", rule (expression false), rule block,
       maybe (all [keyword "else", any [rule block, rule ifExpression]])]
  | matchExpression => all [keyword "match", rule (expression false), inBraces (many (rule matchArm))]
  | matchArm =>
    all
      [attributes, rule pattern,
       any
        [all [keyword "if", rule (expression true), operator ["=>"]],
         all [maybe (all [keyword "if", rule (expression false)]), operator ["=>"]]],
       any
        [all [rule blockLike, absent (any [rule continuation, operator ["*"]]), maybe (mark ',')],
         all [rule (expression true), any [mark ',', ahead (mark '\x7d')]]]]
  | _ => any []

/-- The form of a rule. -/
def form (r : Rule) : Form :=
  match r with
  | source | statement | closedStatement | declaration | declarations | block | letDeclaration
  | continuation => statementForm r
  | attributeItem | visibility | modulePath | useDeclaration | useClause | usePath | useGlob
  | useRenamed | useList | useGroup | externCrate => useForm r
  | macroDefinition | macroCall | tokenTree => macroForm r
  | lifetime | type | plainType | namedType | typeArguments | typeParameters | typeParameter | bounds
  | whereClause => typeForm r
  | literal | numberOrText | pattern | plainPattern | fieldPattern => patternForm r
  | expression _ | openRange _ | following _ | operand _ | prefixed _ | postfixed => operatorForm r
  | primary _ | named _ | closure _ | leaving _ | path | pathHead | pathSegment | record
  | recordField => primaryForm r
  | blockLike | ifExpression | matchExpression | matchArm => blockForm r
  | functionModifier | functionHead | functionItem | parameters | parameter | structItem | unionItem
  | enumItem | fields | tupleFields | variants | traitItem | implItem | moduleItem | foreignItem
  | constItem | staticItem | typeItem | associatedType => itemForm r

end Rule

end DepAtlas.Source
