import Mathlib.Data.List.TakeDrop
import DepAtlas.Source.Tree

set_option relaxedAutoImplicit false
set_option autoImplicit false

/-!
# Reading by the grammar

What a form finds at the front of a token list is put together from what its parts find. Fuel is only a
bound: what is found with enough of it is found with more. Most alternatives of the grammar are ruled out
by the next token alone, which is decided by looking at their forms.

## Main definitions

* `DepAtlas.Source.Finds` — what a form finds at the front of some tokens, with enough fuel.
* `DepAtlas.Source.Form.outlook` — what the next token alone tells about a form.

## Main results

* `DepAtlas.Source.Finds.of_outlook` — a form whose outlook is to fail finds nothing.
* `DepAtlas.Source.areNumbered_ofText` — the tokens of a text have different numbers.
-/

namespace DepAtlas.Source

/-! ## Readings one after the other -/

namespace Reading

variable {r : Reading} {trees : List Tree} {rest : List Token}

/-- Where the first of two readings finds nothing, both together find nothing, whatever the second
one is. -/
lemma found_andThen_of_none (next : List Token → Reading) (h : r.found = none) :
    (r.andThen next).found = none := by
  rw [andThen, h]
  exact h

/-- Where the first of two readings finds trees, the second one goes on behind them, and its trees
come behind those of the first. -/
lemma found_andThen (next : List Token → Reading) (h : r.found = some (trees, rest)) :
    (r.andThen next).found = (next rest).found.map fun (more, rest) => (trees ++ more, rest) := by
  rw [andThen, h]

/-- A second choice counts where the first one finds nothing. -/
lemma found_orElse_of_none (next : Unit → Reading) (h : r.found = none) :
    (r.orElse next).found = (next ()).found := by
  rw [orElse, h]

/-- A first choice that finds something is final: the second one is not looked at, even if what
comes behind cannot be read after the first. This is how the alternatives of the grammar are
ordered. -/
lemma found_orElse_of_some (next : Unit → Reading) (h : r.found = some (trees, rest)) :
    (r.orElse next).found = some (trees, rest) := by
  rw [orElse, h]
  exact h

end Reading

/-! ## Enough fuel -/

/-- What a form finds at the front of some tokens, with this much fuel or more. Saying it for all
larger amounts of fuel lets the parts of a form be combined without counting what each of them uses
up; the number itself only grows from the leaves to the whole. -/
def Finds (fuel : ℕ) (form : Form) (tokens : List Token) (found : Option (List Tree × List Token)) :
    Prop :=
  ∀ more, fuel ≤ more → (form.read more tokens).found = found

variable {fuel fuel' : ℕ} {f : Form} {fs : List Form} {token : Token} {tokens rest : List Token}
  {trees : List Tree} {found : Option (List Tree × List Token)}

/-- One bit of fuel is for the form itself. -/
lemma Finds.of_succ (h : ∀ more, fuel ≤ more → (f.read (more + 1) tokens).found = found) :
    Finds (fuel + 1) f tokens found := by
  intro more hmore
  obtain ⟨more, rfl⟩ := Nat.exists_eq_add_one_of_ne_zero (by omega : more ≠ 0)
  exact h more (by omega)

namespace Finds

/-- More fuel finds the same. -/
lemma mono (h : Finds fuel f tokens found) (hle : fuel ≤ fuel') : Finds fuel' f tokens found :=
  fun more hmore => h more (Nat.le_trans hle hmore)

/-! ## Forms made of forms -/

/-- How repetition reads: it goes on only where the form took a token, so that a form which takes
nothing does not repeat for ever. -/
lemma read_many (more : ℕ) (f : Form) (tokens : List Token) :
    (Form.many f).read (more + 1) tokens =
      match (f.read more tokens).found with
      | some (_, rest) =>
        if hasMoved tokens rest then (f.read more tokens).andThen ((Form.many f).read more)
        else ⟨some ([], tokens), (f.read more tokens).reach⟩
      | none => ⟨some ([], tokens), (f.read more tokens).reach⟩ :=
  rfl

/-- How absence reads: it takes no token, whether the form is there or not. -/
lemma read_absent (more : ℕ) (f : Form) (tokens : List Token) :
    (Form.absent f).read (more + 1) tokens =
      match (f.read more tokens).found with
      | some _ => ⟨none, 0⟩
      | none => ⟨some ([], tokens), 0⟩ :=
  rfl

/-- What a rule finds is what its form finds, gathered to a node of its own or left as it is. -/
lemma rule (r : Rule) (h : Finds fuel r.form tokens found) :
    Finds (fuel + 1) (.rule r) tokens
      (found.map fun (trees, rest) => (Tree.gather r trees, rest)) :=
  of_succ fun more hmore => congrArg (Option.map _) (h more hmore)

/-- No forms in a row find nothing to take, and succeed. -/
lemma all_nil : Finds 1 (.all []) tokens (some ([], tokens)) :=
  of_succ fun _ _ => rfl

/-- If the first of some forms in a row does not fit, the row does not fit. -/
lemma all_cons_none (h : Finds fuel f tokens none) : Finds (fuel + 1) (.all (f :: fs)) tokens none :=
  of_succ fun more hmore => Reading.found_andThen_of_none _ (h more hmore)

/-- If the first of some forms in a row fits, the others go on where it ends, and the trees of all
come one after the other. This is the step by which sentences of the grammar are read in the lemmas
about declarations. -/
lemma all_cons (h : Finds fuel f tokens (some (trees, rest)))
    (h' : Finds fuel' (.all fs) rest found) :
    Finds (max fuel fuel' + 1) (.all (f :: fs)) tokens
      (found.map fun (more, rest) => (trees ++ more, rest)) :=
  of_succ fun more hmore => by
    rw [← h' more (by omega)]
    exact Reading.found_andThen _ (h more (by omega))

/-- The last form of some is where they end. -/
lemma all_last (h : Finds fuel f tokens (some (trees, rest))) :
    Finds (fuel + 2) (.all [f]) tokens (some (trees, rest)) := by
  have hall : Finds (max fuel 1 + 1) (.all [f]) tokens (some (trees ++ [], rest)) :=
    all_cons h all_nil
  rw [List.append_nil] at hall
  exact hall.mono (by omega)

/-- No alternatives do not fit. -/
lemma any_nil : Finds 1 (.any []) tokens none :=
  of_succ fun _ _ => rfl

/-- The first alternative that fits is taken. -/
lemma any_cons (h : Finds fuel f tokens (some (trees, rest))) :
    Finds (fuel + 1) (.any (f :: fs)) tokens (some (trees, rest)) :=
  of_succ fun more hmore => Reading.found_orElse_of_some _ (h more hmore)

/-- An alternative that does not fit is passed over. -/
lemma any_cons_none (h : Finds fuel f tokens none) (h' : Finds fuel' (.any fs) tokens found) :
    Finds (max fuel fuel' + 1) (.any (f :: fs)) tokens found :=
  of_succ fun more hmore =>
    (Reading.found_orElse_of_none _ (h more (by omega))).trans (h' more (by omega))

/-- What may be left out is left out if it does not fit. -/
lemma maybe_none (h : Finds fuel f tokens none) :
    Finds (max fuel 2 + 1) (.maybe f) tokens (some ([], tokens)) :=
  any_cons_none h (any_cons all_nil)

/-- Repetition of what does not fit takes nothing, and succeeds. -/
lemma many_none (h : Finds fuel f tokens none) :
    Finds (fuel + 1) (.many f) tokens (some ([], tokens)) :=
  of_succ fun more hmore => by
    rw [read_many, h more hmore]

/-- Repetition goes on where something was taken. -/
lemma many_cons (h : Finds fuel f tokens (some (trees, rest))) (hmoved : hasMoved tokens rest = true)
    (h' : Finds fuel' (.many f) rest found) :
    Finds (max fuel fuel' + 1) (.many f) tokens
      (found.map fun (more, rest) => (trees ++ more, rest)) :=
  of_succ fun more hmore => by
    have honce := h more (by omega)
    rw [read_many, honce, ← h' more (by omega)]
    simp only [hmoved, if_true]
    exact Reading.found_andThen _ honce

/-- Repetition ends where nothing is taken any more. -/
lemma many_stays (h : Finds fuel f tokens (some ([], tokens))) :
    Finds (fuel + 1) (.many f) tokens (some ([], tokens)) :=
  of_succ fun more hmore => by
    have hstays : hasMoved tokens tokens = false := by simp [hasMoved]
    rw [read_many, h more hmore]
    simp only [hstays, Bool.false_eq_true, if_false]

/-- What does not fit is absent. -/
lemma absent_none (h : Finds fuel f tokens none) :
    Finds (fuel + 1) (.absent f) tokens (some ([], tokens)) :=
  of_succ fun more hmore => by
    rw [read_absent, h more hmore]

/-- What fits is not absent, so its absence does not fit. -/
lemma absent_some (h : Finds fuel f tokens (some (trees, rest))) :
    Finds (fuel + 1) (.absent f) tokens none :=
  of_succ fun more hmore => by
    rw [read_absent, h more hmore]

/-- Looking ahead succeeds and fails as the form does, but takes no token. -/
lemma ahead (h : Finds fuel f tokens found) :
    Finds (fuel + 1) (.ahead f) tokens (found.map fun _ => ([], tokens)) :=
  of_succ fun more hmore => congrArg (Option.map _) (h more hmore)

end Finds

/-! ## The next token -/

/-- No comments stand in front of a token that is none. -/
lemma splitComments_cons (h : token.kind ≠ .comment) :
    splitComments (token :: rest) = ([], token :: rest) := by
  have hkind : (token.kind == .comment) = false := beq_eq_false_iff_ne.2 h
  simp [splitComments, List.span, List.span.loop, hkind]

/-- A token that is no comment is taken if it passes the test. -/
lemma takeToken_cons {test : Token → Bool} (h : token.kind ≠ .comment) :
    (takeToken test (token :: rest)).found =
      if test token then some ([.leaf token], rest) else none := by
  rw [takeToken, splitComments_cons h]
  simp only
  split
  · rfl
  · rfl

/-- What the next token alone tells about a form: it does not fit, it takes nothing, or more has to
be known. The grammar has many alternatives in front of the ones that fit, and an outlook can be
computed, so that these alternatives need not be gone through one by one. -/
inductive Outlook where
  | fails
  | stays
  | unclear
deriving DecidableEq

namespace Outlook

/-- The outlook of a form with another one behind it. -/
def andThen : Outlook → Outlook → Outlook
  | fails, _ => fails
  | stays, next => next
  | unclear, _ => unclear

/-- The outlook of a form with another one in its place if it does not fit. -/
def orElse : Outlook → Outlook → Outlook
  | fails, next => next
  | stays, _ => stays
  | unclear, _ => unclear

/-- The outlook of a test of the next token. -/
def ofTest (passes : Bool) : Outlook :=
  if passes then unclear else fails

/-- The outlook of a rule: a node is something even if it takes nothing. -/
def node (isNode : Bool) : Outlook → Outlook
  | fails => fails
  | stays => if isNode then unclear else stays
  | unclear => unclear

/-- The outlook of a form any number of times. -/
def many : Outlook → Outlook
  | fails | stays => stays
  | unclear => unclear

/-- The outlook of the absence of a form. -/
def absent : Outlook → Outlook
  | fails => stays
  | stays => fails
  | unclear => unclear

end Outlook

/-- What a token of a kind with a text tells about a form that begins with it, as far as the fuel goes. -/
def Form.outlook (kind : TokenKind) (text : String) : (fuel : ℕ) → Form → Outlook
  | 0, _ => .unclear
  | fuel + 1, form =>
    match form with
    | .keyword word => .ofTest (kind == .word && text == word)
    | .name keywords => .ofTest (kind == .word && !keywords.contains text)
    | .token wanted => .ofTest (kind == wanted)
    | .mark c => .ofTest (kind == .mark && text.toList == [c])
    | .operator texts =>
      .ofTest (kind == .mark && texts.any fun operator =>
        (text.toList.take 1).isPrefixOf operator.toList)
    | .plainToken => .unclear
    | .rule r => (outlook kind text fuel r.form).node r.isNode
    | .all [] => .stays
    | .all (f :: fs) => (outlook kind text fuel f).andThen (outlook kind text fuel (.all fs))
    | .any [] => .fails
    | .any (f :: fs) => (outlook kind text fuel f).orElse (outlook kind text fuel (.any fs))
    | .many f => (outlook kind text fuel f).many
    | .absent f => (outlook kind text fuel f).absent
    | .ahead f => outlook kind text fuel f

/-! ## Operators -/

/-- An operator that is not empty begins with the mark in front.

**Proof sketch.** The operator is the longest one that stands at the front of the marks, so both
begin with the same mark. -/
lemma take_one_isPrefix_operatorIn {marks more : List Char} (h : operatorIn (marks ++ more) ≠ []) :
    marks.take 1 <+: operatorIn (marks ++ more) := by
  have hbegins : operatorIn (marks ++ more) <+: marks ++ more := by
    unfold operatorIn
    split
    · next operator hfound =>
      have hprefix := List.find?_some hfound
      exact List.isPrefixOf_iff_prefix.1 hprefix
    · exact List.take_prefix _ _
  obtain ⟨behind, hbehind⟩ := hbegins
  cases marks with
  | nil => exact List.nil_prefix
  | cons c marks =>
    obtain ⟨d, operator, hoperator⟩ := List.exists_cons_of_ne_nil h
    rw [hoperator, List.cons_append, List.cons_append] at hbehind
    rw [hoperator, (List.cons.inj hbehind).1]
    exact ⟨operator, rfl⟩

/-- A token that is no mark has no marks at its front. -/
lemma gluedMarks_of_kind_ne (h : token.kind ≠ .mark) : gluedMarks (token :: rest) = [] := by
  rw [gluedMarks.eq_def]
  exact if_neg (by simpa using h)

/-- The marks at the front of a mark begin with its own. -/
lemma gluedMarks_of_kind_eq (h : token.kind = .mark) :
    ∃ more, gluedMarks (token :: rest) = token.text.toList ++ more :=
  ⟨_, by rw [gluedMarks.eq_def]; exact if_pos (by simpa using h)⟩

/-- An operator is not found where none of its texts begins with the next token.

**Proof sketch.** If it were found, its text would begin with the mark in front, which is the text
of the next token. -/
lemma takeOperator_none {texts : List String} (hcomment : token.kind ≠ .comment)
    (h : (token.kind == .mark && texts.any fun operator =>
      (token.text.toList.take 1).isPrefixOf operator.toList) = false) :
    (takeOperator texts (token :: rest)).found = none := by
  rw [takeOperator, splitComments_cons hcomment]
  simp only
  rw [if_neg]
  intro htaken
  obtain ⟨hne, hmem⟩ := Bool.and_eq_true_iff.1 htaken
  have hnil : operatorIn (gluedMarks (token :: rest)) ≠ [] := by simpa using hne
  by_cases hmark : token.kind = .mark
  · obtain ⟨more, hmore⟩ := @gluedMarks_of_kind_eq token rest hmark
    rw [hmore] at hnil hmem
    have hbegins := take_one_isPrefix_operatorIn hnil
    have hnone := (Bool.and_eq_false_iff.1 h).resolve_left (by simp [hmark])
    refine Bool.eq_false_iff.1 hnone (List.any_eq_true.2 ⟨_, List.contains_iff_mem.1 hmem, ?_⟩)
    rwa [String.toList_ofList, List.isPrefixOf_iff_prefix]
  · rw [gluedMarks_of_kind_ne hmark] at hnil
    exact hnil (by decide)

/-! ## Outlooks come true -/

/-- What an outlook says about a form at the front of some tokens. An unclear outlook says nothing. -/
def Outlook.Holds (fuel : ℕ) (form : Form) (tokens : List Token) : Outlook → Prop
  | .fails => Finds fuel form tokens none
  | .stays => Finds fuel form tokens (some ([], tokens))
  | .unclear => True

namespace Outlook

variable {o o' : Outlook}

/-- If the outlooks of the first form and of the rest of a row are right, so is the one that is made
of them: it is that of the rest where the first form takes nothing. -/
lemma Holds.all_cons (h : o.Holds fuel f tokens) (h' : o'.Holds fuel (.all fs) tokens) :
    (o.andThen o').Holds (fuel + 1) (.all (f :: fs)) tokens := by
  cases o with
  | fails => exact Finds.all_cons_none h
  | stays =>
    cases o' with
    | fails => exact (Finds.all_cons h h').mono (by omega)
    | stays => exact (Finds.all_cons h h').mono (by omega)
    | unclear => trivial
  | unclear => trivial

/-- If the outlooks of the first alternative and of the others are right, so is the one that is made
of them: it is that of the others where the first alternative does not fit. -/
lemma Holds.any_cons (h : o.Holds fuel f tokens) (h' : o'.Holds fuel (.any fs) tokens) :
    (o.orElse o').Holds (fuel + 1) (.any (f :: fs)) tokens := by
  cases o with
  | fails =>
    cases o' with
    | fails => exact (Finds.any_cons_none h h').mono (by omega)
    | stays => exact (Finds.any_cons_none h h').mono (by omega)
    | unclear => trivial
  | stays => exact Finds.any_cons h
  | unclear => trivial

/-- Repetition takes nothing where its form does not fit or takes nothing. -/
lemma Holds.many (h : o.Holds fuel f tokens) : o.many.Holds (fuel + 1) (.many f) tokens := by
  cases o with
  | fails => exact Finds.many_none h
  | stays => exact Finds.many_stays h
  | unclear => trivial

/-- Absence turns failing into taking nothing, and the other way round. -/
lemma Holds.absent (h : o.Holds fuel f tokens) : o.absent.Holds (fuel + 1) (.absent f) tokens := by
  cases o with
  | fails => exact Finds.absent_none h
  | stays => exact Finds.absent_some h
  | unclear => trivial

/-- Looking ahead fails where the form does, and takes nothing in any case. -/
lemma Holds.ahead (h : o.Holds fuel f tokens) : o.Holds (fuel + 1) (.ahead f) tokens := by
  cases o with
  | fails => exact Finds.ahead h
  | stays => exact Finds.ahead h
  | unclear => trivial

/-- The outlook of the form of a rule is that of the rule, except that a node is never nothing. A
form that takes nothing makes a node without children, which is a tree. -/
lemma Holds.rule {r : Rule} (h : o.Holds fuel r.form tokens) :
    (o.node r.isNode).Holds (fuel + 1) (.rule r) tokens := by
  cases o with
  | fails => exact Finds.rule r h
  | stays =>
    cases hnode : r.isNode with
    | true => trivial
    | false =>
      have hgather : Tree.gather r [] = [] := by simp [Tree.gather, hnode]
      have hfinds : Finds (fuel + 1) (.rule r) tokens (some (Tree.gather r [], tokens)) :=
        Finds.rule r h
      rwa [hgather] at hfinds
  | unclear => trivial

/-- A form that takes a token fails if the token does not pass its test. -/
lemma holds_ofTest {test : Token → Bool} {passes : Bool} (hcomment : token.kind ≠ .comment)
    (hform : ∀ more tokens, f.read (more + 1) tokens = takeToken test tokens)
    (htest : test token = passes) : (ofTest passes).Holds (fuel + 1) f (token :: rest) := by
  cases passes with
  | true => trivial
  | false => exact Finds.of_succ fun more _ => by rw [hform, takeToken_cons hcomment, htest]; rfl

/-- An operator fails if none of its texts begins with the token. -/
lemma holds_operator (hcomment : token.kind ≠ .comment) (texts : List String) :
    (ofTest (token.kind == .mark && texts.any fun operator =>
      (token.text.toList.take 1).isPrefixOf operator.toList)).Holds (fuel + 1) (.operator texts)
        (token :: rest) := by
  cases htest : token.kind == .mark && texts.any fun operator =>
    (token.text.toList.take 1).isPrefixOf operator.toList with
  | true => trivial
  | false => exact Finds.of_succ fun _ _ => takeOperator_none hcomment htest

end Outlook

/-- **The next token tells what the outlook says.**

**Proof sketch.** Induction on the fuel: a form and its outlook look at the same parts in the same order. -/
theorem Outlook.holds_outlook (hcomment : token.kind ≠ .comment) (fuel : ℕ) (form : Form) :
    (form.outlook token.kind token.text fuel).Holds fuel form (token :: rest) := by
  induction fuel generalizing form with
  | zero => trivial
  | succ fuel ih =>
    rw [Form.outlook.eq_def]
    simp only
    split
    · exact holds_ofTest hcomment (fun _ _ => rfl) rfl
    · exact holds_ofTest hcomment (fun _ _ => rfl) rfl
    · exact holds_ofTest hcomment (fun _ _ => rfl) rfl
    · exact holds_ofTest hcomment (fun _ _ => rfl) rfl
    · exact holds_operator hcomment _
    · trivial
    · exact (ih _).rule
    · exact Finds.all_nil.mono (by omega)
    · exact (ih _).all_cons (ih _)
    · exact Finds.any_nil.mono (by omega)
    · exact (ih _).any_cons (ih _)
    · exact (ih _).many
    · exact (ih _).absent
    · exact (ih _).ahead

/-- **A form whose outlook is to fail finds nothing.** -/
theorem Finds.of_outlook {kind : TokenKind} {text : String} (hcomment : kind ≠ .comment)
    (houtlook : f.outlook kind text fuel = .fails) (hkind : token.kind = kind)
    (htext : token.text = text) : Finds fuel f (token :: rest) none := by
  subst hkind htext
  have hholds := @Outlook.holds_outlook token rest hcomment fuel f
  rwa [houtlook] at hholds

/-- Some alternatives in front are passed over if their outlook is to fail.

**Proof sketch.** Induction on the number of the alternatives, with one more bit of fuel for each. -/
lemma Finds.any_drop {kind : TokenKind} {text : String} (hcomment : kind ≠ .comment) (n : ℕ)
    (hfails : (fs.take n).all (fun f => f.outlook kind text fuel == .fails) = true)
    (hkind : token.kind = kind) (htext : token.text = text)
    (h : Finds fuel' (.any (fs.drop n)) (token :: rest) found) :
    Finds (max fuel fuel' + n) (.any fs) (token :: rest) found := by
  induction n generalizing fs with
  | zero => exact h.mono (by omega)
  | succ n ih =>
    cases fs with
    | nil => exact h.mono (by omega)
    | cons f fs =>
      obtain ⟨hfirst, hothers⟩ := Bool.and_eq_true_iff.1 hfails
      have hnone : Finds fuel f (token :: rest) none :=
        .of_outlook hcomment (beq_iff_eq.1 hfirst) hkind htext
      exact (any_cons_none hnone (ih hothers h)).mono (by omega)

/-! ## Nodes -/

namespace Finds

/-- A rule that makes nodes, where no comments have to stay outside of the node. -/
lemma node {r : Rule} {tree : Tree} (hnode : r.isNode = true) (hcomment : tree.isComment = false)
    (h : Finds fuel r.form tokens (some (tree :: trees, rest))) :
    Finds (fuel + 1) (.rule r) tokens (some ([.node r (tree :: trees)], rest)) := by
  have hgather : Tree.gather r (tree :: trees) = [.node r (tree :: trees)] := by
    rw [Tree.gather, if_pos hnode, List.span_eq_takeWhile_dropWhile]
    simp [hcomment]
  rw [← hgather]
  exact rule r h

/-- A rule that makes no nodes takes the trees as they are. -/
lemma hidden {r : Rule} (hnode : r.isNode = false)
    (h : Finds fuel r.form tokens (some (trees, rest))) :
    Finds (fuel + 1) (.rule r) tokens (some (trees, rest)) := by
  have hgather : Tree.gather r trees = trees := by rw [Tree.gather, hnode, if_neg Bool.false_ne_true]
  have hrule : Finds (fuel + 1) (.rule r) tokens (some (Tree.gather r trees, rest)) := rule r h
  rwa [hgather] at hrule

end Finds

/-! ## Taking tokens -/

/-- A token that is a word. -/
def IsWord (text : String) (token : Token) : Prop :=
  token.kind = .word ∧ token.text = text

/-- A token that is a mark. -/
def IsMark (c : Char) (token : Token) : Prop :=
  token.kind = .mark ∧ token.text = String.singleton c

/-- Two tokens that are a path separator together. Nothing may stand between the two marks, or they
are two separate ones. -/
def IsScope (first second : Token) : Prop :=
  IsMark ':' first ∧ IsMark ':' second ∧ second.isGlued = true

/-- Whether a token is a word can be decided, as it is a matter of its kind and its text. -/
instance (text : String) (token : Token) : Decidable (IsWord text token) :=
  inferInstanceAs (Decidable (_ ∧ _))

/-- Whether a token is a mark can be decided as well. -/
instance (c : Char) (token : Token) : Decidable (IsMark c token) :=
  inferInstanceAs (Decidable (_ ∧ _))

/-- Whether two tokens are a path separator can be decided as well. -/
instance (first second : Token) : Decidable (IsScope first second) :=
  inferInstanceAs (Decidable (_ ∧ _ ∧ _))

/-- A word is no comment. -/
lemma IsWord.ne_comment {text : String} (h : IsWord text token) : token.kind ≠ .comment :=
  fun heq => TokenKind.noConfusion (h.1.symm.trans heq)

/-- A mark is no comment. -/
lemma IsMark.ne_comment {c : Char} (h : IsMark c token) : token.kind ≠ .comment :=
  fun heq => TokenKind.noConfusion (h.1.symm.trans heq)

namespace Finds

variable {text : String} {c : Char} {first second : Token}

/-- A form that takes a token takes one that passes its test. -/
lemma of_test {test : Token → Bool} (hcomment : token.kind ≠ .comment) (htest : test token = true)
    (hform : ∀ more tokens, f.read (more + 1) tokens = takeToken test tokens) :
    Finds 1 f (token :: rest) (some ([.leaf token], rest)) :=
  of_succ fun _ _ => by rw [hform, takeToken_cons hcomment, if_pos htest]

/-- A word is taken by the keyword of the same text. -/
lemma keyword (h : IsWord text token) :
    Finds 1 (.keyword text) (token :: rest) (some ([.leaf token], rest)) :=
  of_test h.ne_comment (by simp [h.1, h.2]) fun _ _ => rfl

/-- Every word is taken where any name may stand, keywords among them. -/
lemma anyName (h : IsWord text token) :
    Finds 1 .anyName (token :: rest) (some ([.leaf token], rest)) :=
  of_test h.ne_comment (by simp [h.1]) fun _ _ => rfl

/-- A mark is taken by the form for it. -/
lemma mark (h : IsMark c token) :
    Finds 1 (.mark c) (token :: rest) (some ([.leaf token], rest)) :=
  of_test h.ne_comment (by simp [h.1, h.2]) fun _ _ => rfl

/-- A token is taken by the form for its kind. -/
lemma ofKind {kind : TokenKind} (h : token.kind = kind) (hcomment : kind ≠ .comment) :
    Finds 1 (.token kind) (token :: rest) (some ([.leaf token], rest)) :=
  of_test (h ▸ hcomment) (by simp [h]) fun _ _ => rfl

/-- A path separator with a word behind it is taken by the form for it. The word is needed to know
that the operator ends after the second mark.

**Proof sketch.** The marks that are glued together at the front are the two of the separator, and
the operator that stands at the front of these is the separator itself. -/
lemma scope (h : IsScope first second) (hword : IsWord text token) :
    Finds 1 .scope (first :: second :: token :: rest)
      (some ([.leaf first, .leaf second], token :: rest)) :=
  of_succ fun more _ => by
    obtain ⟨hfirst, hsecond, hglued⟩ := h
    have hend : gluedMarks (token :: rest) = [] :=
      gluedMarks_of_kind_ne fun heq => TokenKind.noConfusion (hword.1.symm.trans heq)
    have hmarks : gluedMarks (first :: second :: token :: rest) = [':', ':'] := by
      rw [gluedMarks.eq_def]
      simp only [hfirst.1, hfirst.2, hglued, if_true, beq_self_eq_true]
      rw [gluedMarks.eq_def]
      simp only [hsecond.1, hsecond.2, hend, if_true, beq_self_eq_true, ite_self]
      rfl
    show (takeOperator ["::"] _).found = _
    rw [takeOperator, splitComments_cons hfirst.ne_comment]
    simp only [hmarks]
    rfl

end Finds

/-! ## Numbers of tokens -/

/-- The tokens of a text are numbered one after the other.

**Proof sketch.** Induction on the fuel: every step makes no token, or one token with the next
number. -/
lemma map_number_tokensFrom (fuel number : ℕ) (afterPoint : Bool) (place : Place)
    (s : List Text.Glyph) :
    ∃ count, (tokensFrom fuel number afterPoint place s).map Token.number = List.range' number count := by
  induction fuel generalizing number afterPoint place s with
  | zero => exact ⟨0, rfl⟩
  | succ fuel ih =>
    rw [tokensFrom]
    simp only
    split
    · exact ⟨1, rfl⟩
    · rw [List.map_cons]
      obtain ⟨count, hcount⟩ := ih (number + 1) _ _ _
      exact ⟨count + 1, by rw [hcount, List.range'_succ]⟩

/-- Tokens have different numbers. A token is known by its number, so two places of a text with the
same token in them are told apart. -/
def AreNumbered (tokens : List Token) : Prop :=
  (tokens.map Token.number).Nodup

/-- Tokens that are numbered stay so if some of them are taken away at the front. -/
lemma AreNumbered.of_append {front rest : List Token} (h : AreNumbered (front ++ rest)) :
    AreNumbered rest := by
  unfold AreNumbered at h
  rw [List.map_append] at h
  exact (List.nodup_append.1 h).2.1

/-- The tokens of a text have different numbers. -/
lemma areNumbered_ofText (text : String) : AreNumbered (Token.ofText text) := by
  obtain ⟨fuel, place, s, htokens⟩ : ∃ fuel place s,
      Token.ofText text = tokensFrom fuel 0 false place s := ⟨_, _, _, rfl⟩
  obtain ⟨count, hcount⟩ := map_number_tokensFrom fuel 0 false place s
  rw [AreNumbered, htokens, hcount]
  exact List.nodup_range'

/-- Something was taken from the front if what is left begins with another token. -/
lemma hasMoved_append {front rest : List Token} (hfront : front ≠ []) (hrest : rest ≠ [])
    (h : AreNumbered (front ++ rest)) : hasMoved (front ++ rest) rest = true := by
  obtain ⟨first, front, rfl⟩ := List.exists_cons_of_ne_nil hfront
  obtain ⟨next, rest, rfl⟩ := List.exists_cons_of_ne_nil hrest
  have hne : first.number ≠ next.number := by
    simp only [AreNumbered, List.cons_append, List.map_cons, List.map_append, List.nodup_cons] at h
    exact fun heq => h.1 (by simp [heq])
  simpa [hasMoved] using hne

end DepAtlas.Source
