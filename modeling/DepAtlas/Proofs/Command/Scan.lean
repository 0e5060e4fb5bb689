import DepAtlas.Proofs.Run.Diagnosis

set_option relaxedAutoImplicit false
set_option autoImplicit false

/-!
# The scan of the tokens

The scan that decides which command was asked for and the one that takes its name out of the arguments look
for different things: the first word, and the first token that is the name. They find the same place,
because no name of a command is an option. Options play no part in the decision, apart from those that ask
for help, and from one for the version in the first place.

## Main definitions

* `DepAtlas.DifferInOptions` — lists of tokens that differ in options that do not ask for help.

## Main results

* `DepAtlas.ArgumentList.exists_args_eq_of_route` — the name of the command stands behind options, and just
  this one is taken out.
* `DepAtlas.ArgumentList.route_eq_of_differInOptions` — options may be put in and taken out.
* `DepAtlas.ArgumentList.scan_and_split_agree` — both together.
-/

namespace DepAtlas

/-- Lists of tokens that differ in options: any number of options that do not ask for help is put in or
taken out, in any places. -/
inductive DifferInOptions : List String → List String → Prop where
  | nil : DifferInOptions [] []
  | keep (token : String) {xs ys : List String} (h : DifferInOptions xs ys) :
      DifferInOptions (token :: xs) (token :: ys)
  | insert {token : String} {xs ys : List String} (hoption : isOption token = true)
      (hnohelp : isHelpOption token = false) (h : DifferInOptions xs ys) :
      DifferInOptions xs (token :: ys)
  | remove {token : String} {xs ys : List String} (hoption : isOption token = true)
      (hnohelp : isHelpOption token = false) (h : DifferInOptions xs ys) :
      DifferInOptions (token :: xs) ys

namespace DifferInOptions

variable {xs ys : List String}

/-- The words stay. -/
lemma filter_eq (h : DifferInOptions xs ys) :
    xs.filter (fun token => !isOption token) = ys.filter fun token => !isOption token := by
  induction h with
  | nil => rfl
  | keep token _ ih => rw [List.filter_cons, List.filter_cons, ih]
  | insert hoption _ _ ih => rw [ih, List.filter_cons_of_neg (by simp [hoption])]
  | remove hoption _ _ ih => rw [← ih, List.filter_cons_of_neg (by simp [hoption])]

/-- So does whether help is asked for. -/
lemma any_isHelpOption_eq (h : DifferInOptions xs ys) :
    xs.any isHelpOption = ys.any isHelpOption := by
  induction h with
  | nil => rfl
  | keep token _ ih => rw [List.any_cons, List.any_cons, ih]
  | insert _ hnohelp _ ih => rw [ih, List.any_cons, hnohelp, Bool.false_or]
  | remove _ hnohelp _ ih => rw [← ih, List.any_cons, hnohelp, Bool.false_or]

end DifferInOptions

namespace ArgumentList

variable {l l' : ArgumentList} {c : Command}

/-- **The name that decides is the one that is taken out.** A command line that goes to a command has its
name behind some options, and its arguments are the other tokens in their order. -/
lemma exists_args_eq_of_route (h : l.route = .analyze c) :
    ∃ before after, l.args = before ++ c.name :: after ∧ (∀ token ∈ before, isOption token = true) ∧
      l.commandArgs c.name = before ++ after := by
  have hfirst : l.args.find? (fun token => !isOption token) = some c.name := by
    rw [← List.head?_filter]
    exact (route_eq_analyze_iff.mp h).2
  obtain ⟨hword, before, after, hargs, hbefore⟩ := List.find?_eq_some_iff_append.mp hfirst
  have hoptions : ∀ token ∈ before, isOption token = true := fun token htoken => by
    simpa using hbefore token htoken
  have hname : c.name ∉ before := fun hmem => by
    simp [hoptions c.name hmem] at hword
  refine ⟨before, after, hargs, hoptions, ?_⟩
  rw [commandArgs, hargs, List.erase_append_right _ hname, List.erase_cons_head]

/-- A command line that does not begin with an option for the version is decided by its words and by
whether it asks for help. -/
lemma route_eq_of_not_version (h : l.args.head? ≠ some "-V") (h' : l.args.head? ≠ some "--version") :
    l.route = if l.args.any isHelpOption then .help (helpTopic l.words) else routeOfWords l.words := by
  have hversion : ¬ l.args.head?.any isVersionOption = true := by
    rw [any_isVersionOption_iff]
    exact not_or.mpr ⟨h, h'⟩
  rw [route, if_neg hversion]

/-- **Options do not decide**, unless they ask for help or one for the version stands in the first
place. -/
lemma route_eq_of_differInOptions (h : DifferInOptions l.args l'.args)
    (hl : l.args.head? ≠ some "-V" ∧ l.args.head? ≠ some "--version")
    (hl' : l'.args.head? ≠ some "-V" ∧ l'.args.head? ≠ some "--version") : l'.route = l.route := by
  rw [route_eq_of_not_version hl.1 hl.2, route_eq_of_not_version hl'.1 hl'.2, words, words,
    h.filter_eq, h.any_isHelpOption_eq]

/-- **The two scans of the tokens agree.** If a command line goes to a command, then the name of the
command stands behind options only, and the arguments of the command are all other tokens in their
order, also where the name stands again. And a command line goes where it went before if options
that do not ask for help are put in or taken out, as long as it does not begin with an option for
the version.

**Proof sketch.** One scan finds the first token that is no option, the other one takes out the
first token that is the name. No name is an option, so this is the same token. For the second part,
where a command line goes depends on its words and on whether it asks for help. -/
theorem scan_and_split_agree (l : ArgumentList) :
    (∀ c : Command, l.route = .analyze c → ∃ before after,
      l.args = before ++ c.name :: after ∧ (∀ token ∈ before, isOption token = true) ∧
        l.commandArgs c.name = before ++ after) ∧
    ∀ l' : ArgumentList, DifferInOptions l.args l'.args →
      l.args.head? ≠ some "-V" ∧ l.args.head? ≠ some "--version" →
      l'.args.head? ≠ some "-V" ∧ l'.args.head? ≠ some "--version" → l'.route = l.route :=
  ⟨fun _ => exists_args_eq_of_route, fun _ => route_eq_of_differInOptions⟩

/-- The name of a command behind an option and once more as an argument; then the option goes, and two
others come, one of them for the version but not in the first place. -/
theorem scan_of_repeated_name :
    let l : ArgumentList := ⟨"deplens", ["--quiet", "dot", "src", "dot"]⟩
    let l' : ArgumentList := ⟨"deplens", ["dot", "-V", "src", "--depth=2", "dot"]⟩
    l.route = .analyze .dot ∧
      (∃ before after, ["--quiet", "dot", "src", "dot"] = before ++ "dot" :: after ∧
        (∀ token ∈ before, isOption token = true) ∧ l.commandArgs "dot" = before ++ after) ∧
      DifferInOptions l.args l'.args ∧ l'.route = .analyze .dot := by
  intro l l'
  have hroute : l.route = .analyze .dot := by decide
  have hdiffer : DifferInOptions l.args l'.args :=
    .remove (by decide) (by decide) (.keep _ (.insert (by decide) (by decide) (.keep _
      (.insert (by decide) (by decide) (.keep _ .nil)))))
  obtain ⟨hsplit, hscan⟩ := scan_and_split_agree l
  exact ⟨hroute, hsplit .dot hroute, hdiffer,
    (hscan l' hdiffer (by decide) (by decide)).trans hroute⟩

end ArgumentList

end DepAtlas
