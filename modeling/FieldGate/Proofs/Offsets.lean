import FieldGate.Proofs.Readers
import FieldGate.Proofs.Texts

/-! The offsets that the scanner reports. It only ever goes forward from the place where it starts,
so every offset is that of a place in the text, and reading the same text from a later place moves
every offset by the same number of bytes. -/
namespace FieldGate

namespace Text

/-- Sizes are those of the text in UTF-8. -/
theorem byteSize_eq_utf8ByteSize (cs : List Char) :
    byteSize cs = (String.ofList cs).utf8ByteSize := by
  induction cs with
  | nil => rfl
  | cons c cs ih =>
    have hcons : String.ofList (c :: cs) = String.singleton c ++ String.ofList cs := by
      rw [String.singleton_eq_ofList, ← String.ofList_append]
      rfl
    rw [byteSize_cons, ih, hcons, String.utf8ByteSize_append, String.utf8ByteSize_singleton]

/-- Trimming takes blanks off both ends and nothing else. -/
theorem exists_trimmed (cs : List Char) :
    ∃ trailing, cs = cs.takeWhile Unicode.isBlank ++ (trim cs ++ trailing) ∧
      ∀ c ∈ trailing, Unicode.isBlank c = true := by
  obtain ⟨trailing, htext, htrailing⟩ := exists_trimmedRight (trimLeft cs)
  refine ⟨trailing, ?_, htrailing⟩
  rw [trim, ← htext, trimLeft, List.takeWhile_append_dropWhile]

end Text

private theorem isIdentifierStart_eq_false {a : Char}
    (h : Unicode.isBlank a = true ∨ a = ',' ∨ a = ')') : isIdentifierStart a = false := by
  rcases h with hblank | rfl | rfl
  · exact isIdentifierStart_eq_false_of_isBlank hblank
  · decide +kernel
  · decide +kernel

namespace ReferenceDefect

def later (k : Nat) : ReferenceDefect → ReferenceDefect
  | invalidCharacter c offset => invalidCharacter c (k + offset)
  | emptyIdentifier offset => emptyIdentifier (k + offset)
  | d => d

end ReferenceDefect

namespace Cursor

variable {α β : Type}

section Later

def later (k : Nat) (c : Cursor) : Cursor := ⟨k + c.offset, c.rest⟩

def Scanned.later (k : Nat) : Scanned α → Scanned α
  | .ok (a, c) => .ok (a, c.later k)
  | .error d => .error (d.later k)

/-- What a reader makes of a text does not depend on where the text begins. -/
def Uniform (read : Cursor → Scanned α) : Prop :=
  ∀ (k : Nat) (c : Cursor), read (c.later k) = (read c).later k

variable {read : Cursor → Scanned α} {f : α → Cursor → Scanned β}

theorem past_later (k : Nat) (c : Cursor) (text : List Char) :
    (c.later k).past text = (c.past text).later k := by
  simp only [past, later, Nat.add_assoc]

theorem uniform_ok (a : α) : Uniform fun c => .ok (a, c) := fun _ _ => rfl

theorem Scanned.andThen_later (k : Nat) (x : Scanned α) (hf : ∀ a, Uniform (f a)) :
    (x.later k).andThen f = (x.andThen f).later k := by
  cases x with
  | error d => rfl
  | ok p => exact hf p.1 k p.2

theorem Uniform.andThen (h : Uniform read) (hf : ∀ a, Uniform (f a)) :
    Uniform fun c => (read c).andThen f := by
  intro k c
  dsimp only
  rw [h, Scanned.andThen_later k (read c) hf]

theorem Uniform.past (h : Uniform read) (text : List Char) :
    Uniform fun c => read (c.past text) := by
  intro k c
  dsimp only
  rw [past_later, h]

theorem uniform_identifier : Uniform identifier := by
  intro k c
  obtain ⟨o, rest⟩ := c
  cases rest with
  | nil => rfl
  | cons a more =>
    simp only [identifier, later]
    split
    · exact congrArg (fun c => Except.ok (_, c)) (past_later k ⟨o, a :: more⟩ _)
    · split <;> rfl

theorem uniform_names (fuel : Nat) (path : List String) : Uniform (names fuel path) := by
  induction fuel generalizing path with
  | zero => exact uniform_ok _
  | succ fuel ih =>
    intro k c
    rcases c.stop_or_dot_or_mark with hstop | ⟨more, hdot⟩ | ⟨more, hmark⟩
    · rw [names_stop _ _ hstop, names_stop _ _ (c := c.later k) hstop]
      rfl
    · rw [names_dot fuel path hdot, names_dot fuel path (c := c.later k) hdot]
      exact (uniform_identifier.past ['.']).andThen (fun name => ih (path ++ [name])) k c
    · rw [names_mark fuel path hmark, names_mark fuel path (c := c.later k) hmark]
      exact (uniform_identifier.past ['#']).andThen (fun name => uniform_ok _) k c

theorem uniform_head : Uniform head := by
  intro k c
  by_cases hmark : c.rest.head? = some '#'
  · obtain ⟨more, hrest⟩ := List.head?_eq_some_iff.mp hmark
    rw [head_mark hrest, head_mark (c := c.later k) hrest]
    exact (uniform_identifier.past ['#']).andThen (fun name => uniform_ok _) k c
  · rw [head_name hmark, head_name (c := c.later k) hmark]
    apply uniform_identifier.andThen
    intro first k c
    -- the number of characters that are left bounds the number of names
    exact (uniform_names c.rest.length [first]).andThen (fun p => uniform_ok _) k c

theorem parameters_later (k o : Nat) (parts : List (List Char)) :
    parameters (k + o) parts = (parameters o parts).mapError (·.later k) := by
  induction parts generalizing o with
  | nil => rfl
  | cons part parts ih =>
    rw [parameters, parameters]
    by_cases hpart : (Text.withoutBlanks part).isEmpty = true
    · simp only [hpart, if_true]
      rfl
    · simp only [hpart, if_false, Nat.add_assoc k, ih, Bool.false_eq_true]
      cases parameters (o + Text.byteSize part + 1) parts <;> rfl

theorem uniform_enclosed (p : Char → Bool) (sign : Char) (expected : String)
    {value : Nat → List Char → Except ReferenceDefect α}
    (hv : ∀ k o run, value (k + o) run = (value o run).mapError (·.later k)) :
    Uniform (enclosed p sign expected value) := by
  intro k c
  obtain ⟨o, text⟩ := c
  obtain ⟨run, after, rfl, hrun, hafter⟩ := Text.exists_append_stop p text
  change enclosed p sign expected value ⟨k + o, run ++ after⟩ = _
  cases after with
  | nil =>
    rw [List.append_nil, enclosed_end hrun, enclosed_end hrun]
    rfl
  | cons a rest =>
    have ha := hafter a rfl
    by_cases hsign : a = sign
    · subst hsign
      rw [enclosed_sign hrun ha, enclosed_sign hrun ha, hv]
      simp only [Nat.add_assoc k]
      cases value o run <;> rfl
    · rw [enclosed_other hrun ha hsign, enclosed_other hrun ha hsign, Nat.add_assoc k]
      rfl

theorem uniform_descriptor : Uniform descriptor := by
  rw [funext descriptor_eq_enclosed]
  apply Uniform.past
  apply uniform_enclosed
  intro k o body
  rw [listed, listed]
  split
  · rfl
  · exact parameters_later k o _

theorem uniform_index : Uniform index := by
  rw [funext index_eq_enclosed]
  apply Uniform.past
  apply uniform_enclosed
  intro k o digits
  rw [indexOf, indexOf]
  cases readInteger .w32 digits <;> rfl

theorem uniform_optional {read : Cursor → Scanned α} (h : Uniform read) (sign : Char) :
    Uniform (optional sign read) := by
  intro k c
  by_cases hsign : c.rest.head? = some sign
  · obtain ⟨more, hrest⟩ := List.head?_eq_some_iff.mp hsign
    rw [optional_eq hrest, optional_eq (c := c.later k) hrest]
    exact h.andThen (fun a => uniform_ok _) k c
  · rw [optional, optional, if_neg hsign, if_neg (show (c.later k).rest.head? ≠ _ from hsign)]
    rfl

theorem uniform_whole : Uniform whole := by
  intro k c
  rw [whole, whole]
  change (if c.rest.isEmpty then _ else _) = _
  split
  · rfl
  · refine uniform_head.andThen (fun p => ?_) k c
    refine (uniform_optional uniform_descriptor '(').andThen fun d => ?_
    refine (uniform_optional uniform_index '[').andThen fun n => ?_
    intro k c
    obtain ⟨o, rest⟩ := c
    cases rest <;> rfl

end Later

section Places

/-- One place comes after another in a text, or is the same. -/
def LeadsTo (c c' : Cursor) : Prop :=
  ∃ text, c.rest = text ++ c'.rest ∧ c'.offset = c.offset + Text.byteSize text

variable {c c' c'' : Cursor} {d : ReferenceDefect} {x : Scanned α}

theorem LeadsTo.refl (c : Cursor) : c.LeadsTo c := ⟨[], rfl, rfl⟩

theorem LeadsTo.trans (h : c.LeadsTo c') (h' : c'.LeadsTo c'') : c.LeadsTo c'' := by
  obtain ⟨text, hrest, hoffset⟩ := h
  obtain ⟨text', hrest', hoffset'⟩ := h'
  refine ⟨text ++ text', ?_, ?_⟩
  · rw [hrest, hrest', List.append_assoc]
  · rw [hoffset', hoffset, Text.byteSize_append, Nat.add_assoc]

theorem leadsTo_past (text : List Char) {more : List Char} (h : c.rest = text ++ more) :
    c.LeadsTo (c.past text) :=
  ⟨text, by simp [past, h], rfl⟩

/-- What is reported of a character is reported at its place, and no identifier begins at the place
of an empty one. -/
def StandsAfter (c : Cursor) : ReferenceDefect → Prop
  | .invalidCharacter a offset => ∃ rest, c.LeadsTo ⟨offset, a :: rest⟩
  | .emptyIdentifier offset =>
    ∃ rest, c.LeadsTo ⟨offset, rest⟩ ∧ ∀ a ∈ rest.head?, isIdentifierStart a = false
  | _ => True

theorem LeadsTo.standsAfter (h : c.LeadsTo c') (hd : c'.StandsAfter d) : c.StandsAfter d := by
  cases d with
  | invalidCharacter a offset =>
    obtain ⟨rest, hrest⟩ := hd
    exact ⟨rest, h.trans hrest⟩
  | emptyIdentifier offset =>
    obtain ⟨rest, hrest, hstart⟩ := hd
    exact ⟨rest, h.trans hrest, hstart⟩
  | _ => trivial

/-- What is read from a place ends at a later one, or else is defective at a later one. -/
def Scanned.Tracks (c : Cursor) : Scanned α → Prop
  | .ok (_, c') => c.LeadsTo c'
  | .error d => c.StandsAfter d

theorem Scanned.Tracks.andThen {f : α → Cursor → Scanned β} (h : x.Tracks c)
    (hf : ∀ a c', x = .ok (a, c') → (f a c').Tracks c') : (x.andThen f).Tracks c := by
  cases x with
  | error d => exact h
  | ok p =>
    obtain ⟨a, c'⟩ := p
    have hnext := hf a c' rfl
    change Scanned.Tracks c (f a c')
    cases hfa : f a c' with
    | error d =>
      rw [hfa] at hnext
      exact LeadsTo.standsAfter h hnext
    | ok p =>
      rw [hfa] at hnext
      exact LeadsTo.trans h hnext

theorem tracks_of_leadsTo (h : c.LeadsTo c') (hx : x.Tracks c') : x.Tracks c := by
  cases x with
  | error d => exact h.standsAfter hx
  | ok p => exact h.trans hx

theorem tracks_ok (a : α) (c : Cursor) : Scanned.Tracks c (.ok (a, c)) := .refl c

theorem tracks_identifier (c : Cursor) : (identifier c).Tracks c := by
  obtain ⟨o, rest⟩ := c
  cases rest with
  | nil => trivial
  | cons a more =>
    simp only [identifier]
    split
    · apply leadsTo_past
      rw [List.cons_append, List.takeWhile_append_dropWhile]
    · rename_i ha
      split
      · refine ⟨a :: more, .refl _, ?_⟩
        intro b hb
        cases hb
        exact Bool.eq_false_iff.mpr ha
      · exact ⟨more, .refl _⟩

theorem tracks_names (fuel : Nat) (path : List String) (c : Cursor) :
    (names fuel path c).Tracks c := by
  induction fuel generalizing path c with
  | zero => exact tracks_ok _ c
  | succ fuel ih =>
    rcases c.stop_or_dot_or_mark with hstop | ⟨more, hdot⟩ | ⟨more, hmark⟩
    · rw [names_stop _ _ hstop]
      exact tracks_ok _ c
    · rw [names_dot fuel path hdot]
      apply tracks_of_leadsTo (leadsTo_past ['.'] hdot)
      exact (tracks_identifier _).andThen fun name c' _ => ih _ c'
    · rw [names_mark fuel path hmark]
      apply tracks_of_leadsTo (leadsTo_past ['#'] hmark)
      exact (tracks_identifier _).andThen fun name c' _ => tracks_ok _ c'

theorem tracks_head (c : Cursor) : (head c).Tracks c := by
  by_cases hmark : c.rest.head? = some '#'
  · obtain ⟨more, hrest⟩ := List.head?_eq_some_iff.mp hmark
    rw [head_mark hrest]
    apply tracks_of_leadsTo (leadsTo_past ['#'] hrest)
    exact (tracks_identifier _).andThen fun name c' _ => tracks_ok _ c'
  · rw [head_name hmark]
    apply (tracks_identifier c).andThen
    intro first c' _
    exact (tracks_names _ _ c').andThen fun p c'' _ => tracks_ok _ c''

/-- A blank parameter type begins with what begins no identifier: with a blank, with the comma after
it or with the sign that closes the list. -/
theorem standsAfter_parameters {o : Nat} {parts : List (List Char)} (rest : List Char)
    (h : parameters o parts = .error d) :
    StandsAfter ⟨o, [','].intercalate parts ++ ')' :: rest⟩ d := by
  induction parts generalizing o with
  | nil => cases h
  | cons part parts ih =>
    rw [parameters] at h
    by_cases hpart : Text.withoutBlanks part = []
    · simp only [hpart, List.isEmpty_nil, if_true] at h
      cases h
      refine ⟨_, .refl _, ?_⟩
      rw [Text.intercalate_cons]
      intro a ha
      apply isIdentifierStart_eq_false
      cases part with
      | cons b part =>
        cases ha
        have hblank := List.filter_eq_nil_iff.mp hpart a List.mem_cons_self
        exact .inl (by simpa using hblank)
      | nil =>
        cases parts with
        | nil =>
          cases ha
          exact .inr (.inr rfl)
        | cons next parts =>
          cases ha
          exact .inr (.inl rfl)
    · simp only [List.isEmpty_iff, hpart, if_false] at h
      cases parts with
      | nil => cases h
      | cons next parts =>
        have hlater : LeadsTo ⟨o, [','].intercalate (part :: next :: parts) ++ ')' :: rest⟩
            ⟨o + Text.byteSize part + 1, [','].intercalate (next :: parts) ++ ')' :: rest⟩ := by
          refine ⟨part ++ [','], ?_, ?_⟩
          · simp [List.intercalate_cons_cons]
          · rw [Text.byteSize_append, Nat.add_assoc]
            rfl
        apply hlater.standsAfter
        apply ih
        cases hp : parameters (o + Text.byteSize part + 1) (next :: parts) with
        | ok names =>
          rw [hp] at h
          cases h
        | error d' =>
          rw [hp] at h
          cases h
          rfl

/-- A reader of enclosed characters keeps to the text if the reader of their value does. -/
theorem tracks_enclosed (p : Char → Bool) (sign : Char) (expected : String)
    {value : Nat → List Char → Except ReferenceDefect α}
    (hv : ∀ o run rest d, value o run = .error d → StandsAfter ⟨o, run ++ sign :: rest⟩ d)
    (c : Cursor) : (enclosed p sign expected value c).Tracks c := by
  obtain ⟨o, text⟩ := c
  obtain ⟨run, after, rfl, hrun, hafter⟩ := Text.exists_append_stop p text
  have hpast : LeadsTo ⟨o, run ++ after⟩ ⟨o + Text.byteSize run, after⟩ := ⟨run, rfl, rfl⟩
  cases after with
  | nil =>
    rw [List.append_nil, enclosed_end hrun]
    trivial
  | cons a rest =>
    have ha := hafter a rfl
    by_cases hsign : a = sign
    · subst hsign
      rw [enclosed_sign hrun ha]
      cases hvalue : value o run with
      | error d => exact hv o run rest d hvalue
      | ok v => exact hpast.trans (leadsTo_past [a] rfl)
    · rw [enclosed_other hrun ha hsign]
      exact ⟨rest, hpast⟩

theorem tracks_descriptor {more : List Char} (h : c.rest = '(' :: more) :
    (descriptor c).Tracks c := by
  rw [descriptor_eq_enclosed]
  apply tracks_of_leadsTo (leadsTo_past ['('] h)
  apply tracks_enclosed
  intro o body rest d hlisted
  rw [listed] at hlisted
  split at hlisted
  · cases hlisted
  · have hstands := standsAfter_parameters rest hlisted
    rwa [Text.intercalate_splitOn] at hstands

theorem tracks_index {more : List Char} (h : c.rest = '[' :: more) : (index c).Tracks c := by
  rw [index_eq_enclosed]
  apply tracks_of_leadsTo (leadsTo_past ['['] h)
  apply tracks_enclosed
  intro o digits rest d hindex
  rw [indexOf] at hindex
  split at hindex
  · cases hindex
  · cases hindex
    trivial

theorem tracks_optional {read : Cursor → Scanned α} {sign : Char}
    (h : ∀ c more, c.rest = sign :: more → (read c).Tracks c) (c : Cursor) :
    (optional sign read c).Tracks c := by
  by_cases hsign : c.rest.head? = some sign
  · obtain ⟨more, hrest⟩ := List.head?_eq_some_iff.mp hsign
    rw [optional_eq hrest]
    exact (h c more hrest).andThen fun a c' _ => tracks_ok _ c'
  · rw [optional, if_neg hsign]
    exact tracks_ok _ c

theorem tracks_whole (c : Cursor) : (whole c).Tracks c := by
  rw [whole]
  split
  · rename_i hrest
    refine ⟨c.rest, .refl c, ?_⟩
    rw [List.isEmpty_iff.mp hrest]
    simp
  · apply (tracks_head c).andThen
    intro p c₁ _
    apply (tracks_optional (fun c more => tracks_descriptor) c₁).andThen
    intro d c₂ _
    apply (tracks_optional (fun c more => tracks_index) c₂).andThen
    intro n c₃ _
    obtain ⟨o, rest⟩ := c₃
    cases rest with
    | nil => exact tracks_ok _ _
    | cons a rest => exact ⟨rest, .refl _⟩

end Places
end Cursor

namespace ReferenceDefect

/-- The offset of a defect, in bytes of the text in UTF-8, is that of the character that it is
about, or of a place at which no identifier begins. -/
def StandsIn (text : List Char) : ReferenceDefect → Prop
  | invalidCharacter c offset =>
    ∃ before after, text = before ++ c :: after ∧ (String.ofList before).utf8ByteSize = offset
  | emptyIdentifier offset =>
    offset ≤ (String.ofList text).utf8ByteSize ∧
      ∃ before after, text = before ++ after ∧ (String.ofList before).utf8ByteSize = offset ∧
        ∀ c ∈ after.head?, isIdentifierStart c = false
  | _ => True

end ReferenceDefect

namespace RawReference

theorem scanFrom_later (k : Nat) (c : Cursor) :
    scanFrom (c.later k) = (scanFrom c).mapError (·.later k) := by
  rw [Cursor.scanFrom_eq_whole, Cursor.scanFrom_eq_whole, Cursor.uniform_whole]
  cases c.whole <;> rfl

theorem standsAfter_of_scanFrom {c : Cursor} {d : ReferenceDefect} (h : scanFrom c = .error d) :
    c.StandsAfter d := by
  have htracks := c.tracks_whole
  rw [Cursor.scanFrom_eq_whole] at h
  cases hwhole : c.whole with
  | ok p =>
    rw [hwhole] at h
    cases h
  | error d' =>
    rw [hwhole] at h htracks
    cases h
    exact htracks

private theorem standsIn_of_standsAfter (lead : List Char) {body trail : List Char}
    {d : ReferenceDefect} (htrail : ∀ c ∈ trail, Unicode.isBlank c = true)
    (h : Cursor.StandsAfter ⟨Text.byteSize lead, body⟩ d) :
    d.StandsIn (lead ++ (body ++ trail)) := by
  cases d with
  | invalidCharacter a offset =>
    obtain ⟨rest, before, hbody, hoffset⟩ := h
    refine ⟨lead ++ before, rest ++ trail, ?_, ?_⟩
    · rw [show body = before ++ a :: rest from hbody]
      simp
    · rw [← Text.byteSize_eq_utf8ByteSize, Text.byteSize_append]
      exact hoffset.symm
  | emptyIdentifier offset =>
    obtain ⟨rest, ⟨before, hbody, hoffset⟩, hstart⟩ := h
    have hplace : (String.ofList (lead ++ before)).utf8ByteSize = offset := by
      rw [← Text.byteSize_eq_utf8ByteSize, Text.byteSize_append]
      exact hoffset.symm
    have htext : lead ++ (body ++ trail) = (lead ++ before) ++ (rest ++ trail) := by
      rw [show body = before ++ rest from hbody]
      simp
    refine ⟨?_, lead ++ before, rest ++ trail, htext, hplace, ?_⟩
    · rw [htext, String.ofList_append, String.utf8ByteSize_append, hplace]
      omega
    · intro c hc
      cases rest with
      | nil => exact isIdentifierStart_eq_false (.inl (htrail c (List.mem_of_mem_head? hc)))
      | cons a rest =>
        cases hc
        exact hstart c rfl
  | _ => trivial

/-- Trimming moves every offset by the blanks in front, and trimmed or not, an offset is that of the
character at fault or of a place where no identifier begins, in the text as it was given. -/
theorem scan_error_offsets (text : List Char) :
    scan true text = (scan false (Text.trim text)).mapError
        (·.later (String.ofList (text.takeWhile Unicode.isBlank)).utf8ByteSize) ∧
      ∀ trim d, scan trim text = .error d → d.StandsIn text := by
  constructor
  · rw [← Text.byteSize_eq_utf8ByteSize]
    exact scanFrom_later (Text.byteSize (text.takeWhile Unicode.isBlank)) ⟨0, Text.trim text⟩
  · intro trim d h
    cases trim with
    | false =>
      have hstands := standsIn_of_standsAfter [] (List.forall_mem_nil _) (standsAfter_of_scanFrom h)
      rwa [List.append_nil] at hstands
    | true =>
      obtain ⟨trailing, htext, htrailing⟩ := Text.exists_trimmed text
      have hstands := standsIn_of_standsAfter _ htrailing (standsAfter_of_scanFrom h)
      rwa [← htext] at hstands

/-- The exclamation mark is found at its place behind the blanks that are trimmed. -/
theorem offset_of_exclamation :
    scan true "  cool!Toggle".toList = .error (.invalidCharacter '!' 6) ∧
      (ReferenceDefect.invalidCharacter '!' 6).StandsIn "  cool!Toggle".toList := by
  have h : scan true "  cool!Toggle".toList = .error (.invalidCharacter '!' 6) := rfl
  exact ⟨h, (scan_error_offsets _).2 true _ h⟩

end RawReference

end FieldGate
