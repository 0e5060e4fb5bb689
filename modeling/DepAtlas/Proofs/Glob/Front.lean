import DepAtlas.Glob.Reader
import Mathlib.Data.List.Basic

set_option relaxedAutoImplicit false
set_option autoImplicit false

/-!
# What stands in front of the first wildcard

A pattern that begins with plain characters and a slash matches only paths that begin with them. What
stars behind the slash stand for takes the place of the slash, but it still begins at one.

## Main definitions

* `DepAtlas.Glob.IsPlain` — a character that stands for itself.
* `DepAtlas.GlobPart.beginsAtSlash` — whether what a part matches begins at a slash.
* `DepAtlas.Glob.Building.KeepsFront` — what is read so far begins with some parts and a slash.

## Main results

* `DepAtlas.Glob.readParts_plain` — plain characters are read as their bytes.
* `DepAtlas.Glob.front_of_readParts` — a front that has been read stays in front.
* `DepAtlas.Glob.prefix_of_accepts` — a path that a pattern matches begins with the front of it.
-/

namespace DepAtlas

/-! ## Bytes -/

namespace Glob

/-- What the loop over some bytes gives, from any of them on and with those that it has seen before.

**Proof sketch.** Induction on the number of the bytes that are left. -/
lemma toList_loop_eq (bytes : ByteArray) (i : Nat) (seen : List UInt8) :
    ByteArray.toList.loop bytes i seen = seen.reverse ++ bytes.data.toList.drop i := by
  fun_induction ByteArray.toList.loop bytes i seen with
  | case1 i seen h ih =>
    have hi : i < bytes.data.toList.length := by simpa using h
    rw [ih, List.drop_eq_getElem_cons hi]
    simp [ByteArray.get!, h]
  | case2 i seen h =>
    rw [List.drop_eq_nil_of_le (by simpa using h)]
    simp

/-- The bytes of a text, one character after the other. -/
lemma toList_toUTF8 (text : String) :
    text.toUTF8.toList = text.toList.flatMap String.utf8EncodeChar := by
  rw [String.toUTF8, ← String.utf8Encode_toList, List.utf8Encode, ByteArray.toList, toList_loop_eq]
  simp

/-- Texts that begin with the same bytes begin with the same characters. -/
lemma prefix_of_bytes {front text : List Char} {rest : List UInt8}
    (h : text.flatMap String.utf8EncodeChar = front.flatMap String.utf8EncodeChar ++ rest) :
    front <+: text := by
  refine List.isPrefix_of_utf8Encode_append_eq_utf8Encode rest.toByteArray ?_
  rw [List.utf8Encode, List.utf8Encode, h, List.toByteArray_append]

/-! ## Plain characters -/

/-- A character that stands for itself, where no group of branches is open. -/
def IsPlain (c : Char) : Prop :=
  c ∉ ['*', '?', '[', '\x7b', '\\']

/-- Whether a character is plain can be decided. -/
instance (c : Char) : Decidable (IsPlain c) :=
  inferInstanceAs (Decidable (_ ∉ _))

/-- A character that stands for itself is read as its bytes. -/
lemma literal_eq (c : Char) : literal c = (String.utf8EncodeChar c).map .byte := by
  rw [literal, toList_toUTF8]
  simp

/-- The parts that plain characters are read as. -/
def plainParts (text : List Char) : List GlobPart :=
  (text.flatMap String.utf8EncodeChar).map .byte

/-- A slash is a single byte. -/
lemma utf8EncodeChar_slash : String.utf8EncodeChar '/' = [slash] := by decide

namespace Building

/-- Parts may be added one after the other or at once. -/
lemma add_add (b : Building) (parts more : List GlobPart) :
    (b.add parts).add more = b.add (parts ++ more) := by
  simp [add]

end Building

variable {dialect : Dialect} {fuel : Nat} {before : Option Char} {literalBrackets : Bool} {b : Building}
  {parts : List GlobPart} {c : Char} {text rest : List Char}

/-- A plain character is read as its bytes: a comma stands for itself where no group is open, and a brace
that closes none cannot be read. -/
lemma readParts_cons_plain (hc : IsPlain c) (hgroups : b.groups = [])
    (h : readParts dialect (fuel + 1) before literalBrackets b (c :: rest) = some parts) :
    readParts dialect fuel (some c) literalBrackets (b.add (literal c)) rest = some parts := by
  simp only [IsPlain, List.mem_cons, List.not_mem_nil, or_false, not_or] at hc
  obtain ⟨hstar, hquestion, hbracket, hopen, hescape⟩ := hc
  by_cases hclose : c = '\x7d'
  · subst hclose
    simp [readParts, Building.closeGroup?, hgroups] at h
  by_cases hcomma : c = ','
  · subst hcomma
    simpa [readParts, Building.nextBranch?, hgroups] using h
  · rwa [readParts] at h
    all_goals assumption

/-- **Plain characters are read as their bytes.**

**Proof sketch.** Induction along the text. Each character adds its bytes and uses up one bit of
fuel; what is read behind the text starts from there. -/
lemma readParts_plain (htext : ∀ c ∈ text, IsPlain c) (hgroups : b.groups = [])
    (h : readParts dialect fuel before literalBrackets b (text ++ rest) = some parts) :
    ∃ fuel' before',
      readParts dialect fuel' before' literalBrackets (b.add (plainParts text)) rest = some parts := by
  induction text generalizing fuel before b with
  | nil => exact ⟨fuel, before, h⟩
  | cons c text ih =>
    obtain ⟨hc, htext⟩ := List.forall_mem_cons.1 htext
    cases fuel with
    | zero => simp [readParts] at h
    | succ fuel =>
      have hadded : (b.add (literal c)).groups = [] := hgroups
      obtain ⟨fuel', before', h⟩ := ih htext hadded (readParts_cons_plain hc hgroups h)
      refine ⟨fuel', before', ?_⟩
      rwa [Building.add_add, literal_eq, plainParts, ← List.map_append, ← List.flatMap_cons] at h

/-! ## The front of a pattern -/

end Glob

/-- Whether what a part matches begins at a slash. -/
def GlobPart.beginsAtSlash : GlobPart → Bool
  | .byte b => b == Glob.slash
  | .innerDirectories | .everythingBelow => true
  | _ => false

namespace Glob

namespace Building

/-- The parts outside of all groups, in reverse. -/
def outermost (b : Building) : List GlobPart :=
  (b.groups.getLast?.map Prod.snd).getD b.parts

/-- What is read so far begins with some parts and one that begins at a slash. Nothing that is read
later takes this away, so it is known of the whole pattern as soon as its front is read. -/
def KeepsFront (front : List GlobPart) (b : Building) : Prop :=
  ∃ more stop, stop.beginsAtSlash = true ∧ b.outermost = more ++ stop :: front.reverse

variable {front : List GlobPart} {b b' : Building}

/-- Parts behind the front leave it in front. -/
lemma KeepsFront.of_suffix (h : b.KeepsFront front) (hsuffix : b.outermost <:+ b'.outermost) :
    b'.KeepsFront front := by
  obtain ⟨more, stop, hstop, hfront⟩ := h
  obtain ⟨others, hothers⟩ := hsuffix
  exact ⟨others ++ more, stop, hstop, by rw [← hothers, hfront, List.append_assoc]⟩

/-- Parts that are added leave the front. -/
lemma keepsFront_add (h : b.KeepsFront front) (parts : List GlobPart) :
    (b.add parts).KeepsFront front := by
  refine h.of_suffix ?_
  cases hgroups : b.groups.getLast? <;> simp [outermost, add, hgroups]

/-- A group that is opened leaves the front, as it is outside of the group. -/
lemma keepsFront_openGroup (h : b.KeepsFront front) : b.openGroup.KeepsFront front := by
  refine h.of_suffix ?_
  cases hgroups : b.groups.getLast? <;> simp_all [outermost, openGroup, List.getLast?_cons]

/-- The next branch of a group leaves the front. -/
lemma keepsFront_nextBranch? (h : b.KeepsFront front) (hb' : b.nextBranch? = some b') :
    b'.KeepsFront front := by
  refine h.of_suffix ?_
  cases b with
  | mk parts groups =>
    cases groups with
    | nil => exact nomatch hb'
    | cons group more =>
      obtain rfl := Option.some.inj hb'
      cases hmore : more.getLast? <;> simp [outermost, List.getLast?_cons, hmore]

/-- A group that is closed leaves the front: its branches become one part behind it. -/
lemma keepsFront_closeGroup? (h : b.KeepsFront front) (hb' : b.closeGroup? = some b') :
    b'.KeepsFront front := by
  refine h.of_suffix ?_
  cases b with
  | mk parts groups =>
    cases groups with
    | nil => exact nomatch hb'
    | cons group more =>
      obtain rfl := Option.some.inj hb'
      cases hmore : more.getLast? <;> simp [outermost, List.getLast?_cons, hmore]

/-- What stars between slashes stand for takes the place of the last part, or is dropped. -/
lemma addDirectories_eq {top : GlobPart} {parts : List GlobPart} (h : b.parts = top :: parts)
    (part : GlobPart) :
    b.addDirectories part = b ∨ b.addDirectories part = { b with parts := part :: parts } := by
  unfold addDirectories
  rw [h]
  cases top <;> simp

/-- The last part may be the one behind the front; what takes its place begins at a slash too.

**Proof sketch.** At most the last part is replaced. In an open group this is a part of the group.
If not, it is the part behind the front, and its replacement begins at a slash as well, or it is
further back and the front is not touched. -/
lemma keepsFront_addDirectories (h : b.KeepsFront front) {part : GlobPart}
    (hpart : part.beginsAtSlash = true) : (b.addDirectories part).KeepsFront front := by
  cases hgroups : b.groups.getLast? with
  | some group =>
    refine h.of_suffix ?_
    have hsame : (b.addDirectories part).groups = b.groups := by
      unfold addDirectories
      split <;> rfl
    simp [outermost, hsame, hgroups]
  | none =>
    obtain ⟨more, stop, hstop, hfront⟩ := h
    have hparts : b.parts = more ++ stop :: front.reverse := by
      simpa [outermost, hgroups] using hfront
    cases more with
    | nil =>
      obtain hsame | hreplaced := addDirectories_eq hparts part
      · exact ⟨[], stop, hstop, by rw [hsame, hfront]⟩
      · exact ⟨[], part, hpart, by simp [hreplaced, outermost, hgroups]⟩
    | cons top more =>
      obtain hsame | hreplaced := addDirectories_eq hparts part
      · exact ⟨top :: more, stop, hstop, by rw [hsame, hfront]⟩
      · exact ⟨part :: more, stop, hstop, by simp [hreplaced, outermost, hgroups]⟩

/-- Stars add parts, or what they stand for between slashes. -/
lemma addStars_eq (b : Building) (before : Option Char) (rest : List Char) :
    (∃ parts, (b.addStars before rest).1 = b.add parts) ∨
      ∃ part, part.beginsAtSlash = true ∧ (b.addStars before rest).1 = b.addDirectories part := by
  unfold addStars
  repeat' split
  all_goals first | exact .inl ⟨_, rfl⟩ | exact .inr ⟨_, rfl, rfl⟩

/-- Stars leave the front. -/
lemma keepsFront_addStars (h : b.KeepsFront front) (before : Option Char) (rest : List Char) :
    (b.addStars before rest).1.KeepsFront front := by
  obtain ⟨parts, heq⟩ | ⟨part, hpart, heq⟩ := addStars_eq b before rest
  · exact heq ▸ keepsFront_add h parts
  · exact heq ▸ keepsFront_addDirectories h hpart

end Building

variable {dialect : Dialect} {fuel : Nat} {before : Option Char} {literalBrackets : Bool} {b : Building}
  {parts front : List GlobPart} {text : List Char}

/-- **A front that has been read stays in front.**

**Proof sketch.** Induction on the steps. Each step adds parts, opens, divides or closes a group, or puts
what stars stand for in the place of a part, and keeps the front by the lemma about it. -/
theorem front_of_readParts (hb : b.KeepsFront front)
    (h : readParts dialect fuel before literalBrackets b text = some parts) :
    ∃ stop more, stop.beginsAtSlash = true ∧ parts = front ++ stop :: more := by
  fun_induction readParts dialect fuel before literalBrackets b text with
  | case1 _ _ _ b hclosed =>
    obtain ⟨more, stop, hstop, hfront⟩ := hb
    have hparts : b.parts = more ++ stop :: front.reverse := by
      simpa [Building.outermost, List.isEmpty_iff.1 hclosed] using hfront
    obtain rfl : b.parts.reverse = parts := Option.some.inj h
    exact ⟨stop, more.reverse, hstop, by simp [hparts]⟩
  | case2 | case3 | case9 | case10 | case14 => exact nomatch h
  | case5 _ before _ b rest stars left hstars taken ih =>
    have hkept := Building.keepsFront_addStars hb before rest
    rw [hstars] at hkept
    exact ih hkept h
  | case11 _ _ _ b rest ih => exact ih (Building.keepsFront_openGroup hb) h
  | case12 _ _ _ b rest ih =>
    obtain ⟨closed, hclosed, h⟩ := Option.bind_eq_some_iff.1 h
    exact ih closed (Building.keepsFront_closeGroup? hb hclosed) h
  | case13 _ _ _ b rest ih =>
    refine ih ?_ h
    cases hnext : b.nextBranch? with
    | none => exact Building.keepsFront_add hb _
    | some next => exact Building.keepsFront_nextBranch? hb hnext
  | case4 | case6 | case7 | case8 | case15 | case16 =>
    next ih => exact ih (Building.keepsFront_add hb _) h

/-! ## Matching -/

variable {within : Bool}

/-- Nothing is left behind parts from nowhere on. -/
@[simp] lemma behindParts_nil (within : Bool) (parts : List GlobPart) :
    behindParts within parts [] = [] := by
  induction parts with
  | nil => rfl
  | cons part parts ih => simpa [behindParts, withoutRepetition] using ih

/-- What is left behind the bytes of a front is left of a text that begins with them.

**Proof sketch.** Induction along the bytes, each of which takes one byte of the text. -/
lemma of_behindParts_bytes {bytes s : List UInt8}
    (h : behindParts within (bytes.map .byte ++ parts) [s] ≠ []) :
    ∃ rest, s = bytes ++ rest ∧ behindParts within parts [rest] ≠ [] := by
  induction bytes generalizing s with
  | nil => exact ⟨s, rfl, h⟩
  | cons byte bytes ih =>
    cases s with
    | nil => simp [behindParts, behindPart, behindByte, withoutRepetition] at h
    | cons first s =>
      by_cases hbyte : first = byte
      · subst hbyte
        obtain ⟨rest, rfl, hrest⟩ := ih (by
          simpa [behindParts, behindPart, behindByte, withoutRepetition] using h)
        exact ⟨rest, rfl, hrest⟩
      · simp [behindParts, behindPart, behindByte, withoutRepetition, hbyte] at h

/-- What is left behind a part that begins at a slash is left of a text that does. -/
lemma of_behindParts_stop {stop : GlobPart} (hstop : stop.beginsAtSlash = true) {s : List UInt8}
    (h : behindParts within (stop :: parts) [s] ≠ []) : ∃ rest, s = slash :: rest := by
  cases s with
  | nil =>
    cases stop <;> simp_all [GlobPart.beginsAtSlash, behindParts, behindPart, behindByte, withoutRepetition]
  | cons first s =>
    by_cases hfirst : first = slash
    · exact ⟨s, by rw [hfirst]⟩
    · cases stop <;>
        simp_all [GlobPart.beginsAtSlash, behindParts, behindPart, behindByte, withoutRepetition]

/-- **A path that a pattern matches begins with the front of it.**

**Proof sketch.** The front is read as its bytes, and the slash behind it stays a part that begins
at a slash, whatever follows. A text that the parts match begins with the bytes, and so with the
characters, because no other characters have these bytes. -/
theorem prefix_of_accepts {pattern path : String} {front rest : List Char} {g : Glob}
    (hpattern : pattern.toList = front ++ '/' :: rest) (hfront : ∀ c ∈ front, IsPlain c)
    (hread : read? dialect pattern = some g) (h : g.accepts path = true) :
    front ++ ['/'] <+: path.toList := by
  obtain ⟨parts, hparts, rfl⟩ := Option.map_eq_some_iff.1 hread
  have htext : pattern.toList = (front ++ ['/']) ++ rest := by simp [hpattern]
  have hplain : ∀ c ∈ front ++ ['/'], IsPlain c :=
    List.forall_mem_append.2 ⟨hfront, List.forall_mem_singleton.2 (by decide)⟩
  rw [htext] at hparts
  obtain ⟨fuel, before, hparts⟩ := readParts_plain hplain rfl hparts
  have hkeeps : (Building.add {} (plainParts (front ++ ['/']))).KeepsFront (plainParts front) :=
    ⟨[], .byte slash, rfl, by simp [Building.outermost, Building.add, plainParts, utf8EncodeChar_slash]⟩
  obtain ⟨stop, more, hstop, rfl⟩ := front_of_readParts hkeeps hparts
  have hbehind : behindParts dialect.withinComponents (plainParts front ++ stop :: more)
      [path.toUTF8.toList] ≠ [] := by
    unfold accepts at h
    split at h
    · next hall =>
      have hmem : stop ∈ [GlobPart.leadingDirectories] := hall ▸ by simp
      rw [List.mem_singleton.1 hmem] at hstop
      exact nomatch hstop
    · intro hnone
      rw [hnone] at h
      exact nomatch h
  obtain ⟨left, hpath, hleft⟩ := of_behindParts_bytes hbehind
  obtain ⟨last, rfl⟩ := of_behindParts_stop hstop hleft
  have hbytes : path.toList.flatMap String.utf8EncodeChar =
      (front ++ ['/']).flatMap String.utf8EncodeChar ++ last := by
    rw [← toList_toUTF8, hpath]
    simp [utf8EncodeChar_slash]
  exact prefix_of_bytes hbytes

end Glob

end DepAtlas
