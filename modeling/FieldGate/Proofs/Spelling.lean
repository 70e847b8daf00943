import FieldGate.Proofs.Integers
import FieldGate.Proofs.Offsets
import FieldGate.Proofs.Scanning

/-! The grammar of references. A spelling is a reference taken apart as it is written; a text is
read exactly if it writes one, as the reference that the spelling stands for. -/
namespace FieldGate

/-- A text that may stand in parentheses: it lists no types, or types of which none is blank. -/
structure IsParameterList (body : List Char) : Prop where
  plain : ∀ c ∈ body, c ∉ ['(', ')', '[', ']', '#']
  listed : (∀ c ∈ body, Unicode.isBlank c = true) ∨
    ∀ part ∈ Text.splitOn ',' body, ∃ c ∈ part, Unicode.isBlank c = false

/-- A text that may stand in square brackets: digits of a number that fits in 32 bits with a
sign. -/
structure IsIndex (digits : List Char) : Prop where
  ne_nil : digits ≠ []
  isDigit : ∀ c ∈ digits, c.isDigit = true
  fits : Nat.ofDigitChars 10 digits 0 ≤ 2147483647

theorem Text.intercalate_concat {sep : Char} {parts : List (List Char)} (hne : parts ≠ [])
    (last : List Char) :
    [sep].intercalate (parts ++ [last]) = [sep].intercalate parts ++ sep :: last := by
  obtain ⟨first, more, rfl⟩ := List.exists_cons_of_ne_nil hne
  simp [Text.intercalate_cons]

/-- The parts of a reference as they are written: the names of the path, the member, the text in
parentheses and the digits in square brackets. -/
structure Spelling where
  path : List (List Char)
  member : List Char
  parameters : Option (List Char) := none
  index : Option (List Char) := none
  path_isIdentifier : ∀ name ∈ path, isIdentifier name = true
  member_isIdentifier : isIdentifier member = true
  parameters_isList : ∀ body ∈ parameters, IsParameterList body
  index_isIndex : ∀ digits ∈ index, IsIndex digits

def bracketed (opening closing : Char) : Option (List Char) → List Char
  | some body => opening :: (body ++ [closing])
  | none => []

/-- The types that a text in parentheses lists, without their blanks. -/
def parameterNames (body : List Char) : List String :=
  if body.all Unicode.isBlank then []
  else (Text.splitOn ',' body).map fun part => String.ofList (Text.withoutBlanks part)

namespace Spelling

def tail (p : Spelling) : List Char :=
  bracketed '(' ')' p.parameters ++ bracketed '[' ']' p.index

def dotted (p : Spelling) : List Char := ['.'].intercalate (p.path ++ [p.member]) ++ p.tail

def marked (p : Spelling) : List Char := RawReference.headText p.path p.member p.tail

/-- Whether a text writes a spelling. Without a path, the number sign may be there or not. -/
def Writes (text : List Char) (p : Spelling) : Prop := text = p.dotted ∨ text = p.marked

def reference (p : Spelling) : RawReference where
  path := p.path.map String.ofList
  member := String.ofList p.member
  descriptor := p.parameters.map parameterNames
  index := p.index.map fun digits => Nat.ofDigitChars 10 digits 0

end Spelling

namespace Cursor

variable {α : Type} {o : Nat} {text rest : List Char}

/-- An optional part is there if the text goes on with its sign. -/
theorem takes_optional_iff {sign : Char} {read : Cursor → Scanned α} {a? : Option α} :
    Takes (optional sign read) o text a? rest ↔
      (text.head? ≠ some sign ∧ a? = none ∧ rest = text) ∨
        ∃ more a, text = sign :: more ∧ a? = some a ∧ Takes read o text a rest := by
  by_cases hsign : text.head? = some sign
  · obtain ⟨more, rfl⟩ := List.head?_eq_some_iff.mp hsign
    constructor
    · intro h
      obtain ⟨o', h⟩ := h
      rw [optional, if_pos (by rfl)] at h
      obtain ⟨⟨a, c⟩, hread, heq⟩ := map_eq_ok_iff.mp h
      cases heq
      exact .inr ⟨more, a, rfl, rfl, o', hread⟩
    · intro h
      rcases h with ⟨hne, -⟩ | ⟨_, a, heq, ha, hread⟩
      · exact absurd rfl hne
      · rw [ha]
        exact takes_optional hread
  · constructor
    · intro h
      obtain ⟨o', h⟩ := h
      rw [optional_of_ne hsign] at h
      cases h
      exact .inl ⟨hsign, rfl, rfl⟩
    · intro h
      rcases h with ⟨-, ha, hrest⟩ | ⟨more, a, heq, -⟩
      · rw [ha, hrest]
        exact ⟨o, optional_of_ne hsign⟩
      · rw [heq] at hsign
        exact absurd rfl hsign

private theorem takes_bracketed_iff {opening closing : Char} {read : Cursor → Scanned α}
    {P : List Char → Prop} {value : List Char → α} {a? : Option α}
    (hread : ∀ o more a rest, Takes read o (opening :: more) a rest ↔
      ∃ body, more = body ++ closing :: rest ∧ P body ∧ a = value body) :
    Takes (optional opening read) o text a? rest ↔
      ∃ part, (∀ body ∈ part, P body) ∧ text = bracketed opening closing part ++ rest ∧
        a? = part.map value ∧ (part = none → rest.head? ≠ some opening) := by
  rw [takes_optional_iff]
  constructor
  · intro h
    rcases h with ⟨hne, ha, hrest⟩ | ⟨more, a, htext, ha, htakes⟩
    · rw [hrest]
      exact ⟨none, by simp, rfl, ha, fun _ => hne⟩
    · rw [htext] at htakes
      obtain ⟨body, hmore, hbody, hvalue⟩ := (hread o more a rest).mp htakes
      refine ⟨some body, by simpa using hbody, ?_, ?_, by simp⟩
      · simp [bracketed, htext, hmore]
      · rw [ha, hvalue, Option.map_some]
  · intro h
    obtain ⟨part, hpart, htext, ha, hstop⟩ := h
    cases part with
    | none => exact .inl ⟨by simpa [htext, bracketed] using hstop rfl, ha, htext.symm⟩
    | some body =>
      have htext' : text = opening :: (body ++ closing :: rest) := by simp [htext, bracketed]
      rw [htext']
      exact .inr ⟨_, _, rfl, ha, (hread _ _ _ _).mpr ⟨body, rfl, hpart body rfl, rfl⟩⟩

/-- A text in parentheses lists types if it is blank, or none of its parts between commas is. -/
theorem lists_iff {body : List Char} {params : List String} :
    Lists body params ↔ ((∀ c ∈ body, Unicode.isBlank c = true) ∨
      ∀ part ∈ Text.splitOn ',' body, ∃ c ∈ part, Unicode.isBlank c = false) ∧
        params = parameterNames body := by
  by_cases hblank : ∀ c ∈ body, Unicode.isBlank c = true
  · have hnone : ¬ ∃ c ∈ body, Unicode.isBlank c = false := by simpa using hblank
    rw [Lists, parameterNames, if_pos (List.all_eq_true.mpr hblank)]
    simp only [eq_true hblank, hnone, true_and, true_or, false_and, or_false]
  · have hsome : ∃ c ∈ body, Unicode.isBlank c = false := by simpa using hblank
    rw [Lists, parameterNames, if_neg fun h => hblank (List.all_eq_true.mp h)]
    simp only [hblank, hsome, Text.withoutBlanks_ne_nil_iff, true_and, false_and, false_or]

/-- Parameter types are read exactly of a list of them in parentheses. -/
theorem takes_optional_descriptor_iff {params? : Option (List String)} :
    Takes (optional '(' descriptor) o text params? rest ↔
      ∃ part, (∀ body ∈ part, IsParameterList body) ∧ text = bracketed '(' ')' part ++ rest ∧
        params? = part.map parameterNames ∧ (part = none → rest.head? ≠ some '(') := by
  apply takes_bracketed_iff
  intro o more params rest
  simp only [takes_descriptor_iff, lists_iff, isPlain_iff]
  apply exists_congr
  intro body
  apply and_congr_right
  intro _
  rw [← and_assoc]
  exact and_congr_left fun _ => ⟨fun h => ⟨h.1, h.2⟩, fun h => ⟨h.1, h.2⟩⟩

/-- An index is read exactly of digits in square brackets. -/
theorem takes_optional_index_iff {n? : Option Nat} :
    Takes (optional '[' index) o text n? rest ↔
      ∃ part, (∀ digits ∈ part, IsIndex digits) ∧ text = bracketed '[' ']' part ++ rest ∧
        n? = part.map (fun digits => Nat.ofDigitChars 10 digits 0) ∧
          (part = none → rest.head? ≠ some '[') := by
  apply takes_bracketed_iff
  intro o more n rest
  rw [takes_index_iff]
  apply exists_congr
  intro digits
  apply and_congr_right
  intro _
  have hlimit : IntegerWidth.w32.limit - 1 = 2147483647 := by decide
  constructor
  · intro h
    obtain ⟨hdigits, i, hread, hn⟩ := h
    obtain ⟨hne, hi, hfits⟩ := (readInteger_digits_iff hdigits).mp hread
    rw [hi, Int.toNat_natCast] at hn
    exact ⟨⟨hne, hdigits, hlimit ▸ hfits⟩, hn.symm⟩
  · intro h
    obtain ⟨hindex, hn⟩ := h
    have hread := (readInteger_digits_iff (w := .w32) hindex.isDigit).mpr
      ⟨hindex.ne_nil, rfl, hlimit ▸ hindex.fits⟩
    exact ⟨hindex.isDigit, _, hread, hn ▸ Int.toNat_natCast _⟩

private theorem identifier_of_takes {name : String} (h : Takes identifier o text name rest) :
    ∃ chars, isIdentifier chars = true ∧ name = String.ofList chars ∧ text = chars ++ rest := by
  obtain ⟨o', h⟩ := h
  cases text with
  | nil => cases h
  | cons a more =>
    obtain ⟨before, after, rfl, hbefore, hafter⟩ := Text.exists_append_stop isIdentifierPart more
    simp only [identifier, Text.takeWhile_append_of_stop hbefore hafter] at h
    split at h
    · rename_i ha
      rw [← List.cons_append, past_append] at h
      cases h
      exact ⟨a :: before, Bool.and_eq_true_iff.mpr ⟨ha, List.all_eq_true.mpr hbefore⟩, rfl, rfl⟩
    · split at h <;> cases h

/-- Two readers in turn read what the first leaves to the second. -/
theorem Scanned.andThen_eq_ok_iff {β : Type} {x : Scanned α} {f : α → Cursor → Scanned β} {b : β}
    {c : Cursor} : x.andThen f = .ok (b, c) ↔ ∃ a c₁, x = .ok (a, c₁) ∧ f a c₁ = .ok (b, c) := by
  cases x with
  | error d => simp [andThen]
  | ok p => simp [andThen, Prod.ext_iff]

private theorem names_of_takes {fuel : Nat} {path path' : List String} {member? : Option String}
    (h : Takes (names fuel path) o text (path', member?) rest) :
    ∃ segments : List (List Char), (∀ segment ∈ segments, isIdentifier segment = true) ∧
      path' = path ++ segments.map String.ofList ∧
      ((member? = none ∧ text = segments.flatMap ('.' :: ·) ++ rest) ∨
        ∃ member, isIdentifier member = true ∧ member? = some (String.ofList member) ∧
          text = segments.flatMap ('.' :: ·) ++ '#' :: (member ++ rest)) := by
  obtain ⟨o', h⟩ := h
  induction fuel generalizing o path text with
  | zero =>
    cases h
    exact ⟨[], by simp, by simp, .inl ⟨rfl, rfl⟩⟩
  | succ fuel ih =>
    rcases stop_or_dot_or_mark ⟨o, text⟩ with hstop | ⟨more, hdot⟩ | ⟨more, hmark⟩
    · rw [names_stop _ _ hstop] at h
      cases h
      exact ⟨[], by simp, by simp, .inl ⟨rfl, rfl⟩⟩
    · obtain rfl : text = '.' :: more := hdot
      rw [names_dot fuel path rfl, Scanned.andThen_eq_ok_iff] at h
      obtain ⟨name, ⟨o₁, after⟩, hname, h⟩ := h
      obtain ⟨chars, hchars, rfl, rfl⟩ := identifier_of_takes ⟨o₁, hname⟩
      obtain ⟨segments, hs, hpath, hrest⟩ := ih h
      refine ⟨chars :: segments, List.forall_mem_cons.mpr ⟨hchars, hs⟩, by simp [hpath], ?_⟩
      rcases hrest with ⟨hmember, hafter⟩ | ⟨member, hm, hmember, hafter⟩
      · exact .inl ⟨hmember, by simp [hafter]⟩
      · exact .inr ⟨member, hm, hmember, by simp [hafter]⟩
    · obtain rfl : text = '#' :: more := hmark
      rw [names_mark fuel path rfl, Scanned.andThen_eq_ok_iff] at h
      obtain ⟨name, ⟨o₁, after⟩, hname, h⟩ := h
      obtain ⟨chars, hchars, rfl, rfl⟩ := identifier_of_takes ⟨o₁, hname⟩
      cases h
      exact ⟨[], by simp, by simp, .inr ⟨chars, hchars, rfl, rfl⟩⟩

/-- A head is read of names between dots, or of a path and a member after a number sign. -/
theorem head_of_takes {path : List String} {name : String}
    (h : Takes head o text (path, name) rest) :
    ∃ (segments : List (List Char)) (member : List Char),
      (∀ segment ∈ segments, isIdentifier segment = true) ∧ isIdentifier member = true ∧
      path = segments.map String.ofList ∧ name = String.ofList member ∧
      (text = ['.'].intercalate (segments ++ [member]) ++ rest ∨
        text = ['.'].intercalate segments ++ '#' :: (member ++ rest)) := by
  obtain ⟨o', h⟩ := h
  by_cases hmark : text.head? = some '#'
  · obtain ⟨more, rfl⟩ := List.head?_eq_some_iff.mp hmark
    rw [head_mark rfl, Scanned.andThen_eq_ok_iff] at h
    obtain ⟨name, ⟨o₁, after⟩, hname, h⟩ := h
    obtain ⟨member, hm, rfl, rfl⟩ := identifier_of_takes ⟨o₁, hname⟩
    cases h
    exact ⟨[], member, by simp, hm, rfl, rfl, .inr rfl⟩
  · rw [head_name hmark, Scanned.andThen_eq_ok_iff] at h
    obtain ⟨name, ⟨o₁, after⟩, hname, h⟩ := h
    obtain ⟨first, hfirst, rfl, rfl⟩ := identifier_of_takes ⟨o₁, hname⟩
    obtain ⟨⟨path', member?⟩, c₂, hnames, h⟩ := Scanned.andThen_eq_ok_iff.mp h
    obtain ⟨hparts, hend⟩ := Prod.mk.inj (Except.ok.inj h)
    subst hend
    obtain ⟨others, hothers, rfl, hafter⟩ := names_of_takes ⟨o', hnames⟩
    have hall : ∀ name ∈ first :: others, isIdentifier name = true :=
      List.forall_mem_cons.mpr ⟨hfirst, hothers⟩
    rcases hafter with ⟨rfl, rfl⟩ | ⟨member, hm, rfl, rfl⟩
    · obtain ⟨segments, member, hsplit⟩ := (List.eq_nil_or_concat' (first :: others)).resolve_left
        (List.cons_ne_nil first others)
      cases (memberOf_dotted hsplit).symm.trans hparts
      rw [hsplit] at hall
      obtain ⟨hs, hm⟩ := List.forall_mem_append.mp hall
      refine ⟨segments, member, hs, hm member (List.mem_singleton_self member), rfl, rfl,
        .inl ?_⟩
      rw [← hsplit, Text.intercalate_cons, List.append_assoc]
      rfl
    · cases hparts
      refine ⟨first :: others, member, hall, hm, rfl, rfl, .inr ?_⟩
      rw [Text.intercalate_cons, List.append_assoc]
      rfl

private theorem offset_of_head {a : List String × String} {o' : Nat}
    (h : head ⟨o, text ++ rest⟩ = .ok (a, ⟨o', rest⟩)) : o' = o + Text.byteSize text := by
  have htracks := tracks_head ⟨o, text ++ rest⟩
  rw [h] at htracks
  obtain ⟨text', htext, hoffset⟩ := htracks
  obtain rfl : text = text' := List.append_cancel_right htext
  exact hoffset

/-- A head is read alike with a dot and with a number sign before the member, where it ends. -/
theorem head_dotted_eq_marked {segments : List (List Char)} {member : List Char}
    (hne : segments ≠ []) (hs : ∀ segment ∈ segments, isIdentifier segment = true)
    (hm : isIdentifier member = true)
    (hrest : ∀ c ∈ rest.head?, isIdentifierPart c = false ∧ c ∉ ['.', '#']) :
    head ⟨o, ['.'].intercalate (segments ++ [member]) ++ rest⟩ =
      head ⟨o, ['.'].intercalate segments ++ '#' :: (member ++ rest)⟩ := by
  obtain ⟨o₁, hdotted⟩ := takes_head_dotted (o := o) rest hs hm hrest
  obtain ⟨o₂, hmarked⟩ := takes_head (o := o) rest hs hm fun c hc => (hrest c hc).1
  have hsplit : ['.'].intercalate segments ++ '#' :: (member ++ rest) =
      (['.'].intercalate segments ++ '#' :: member) ++ rest := by simp
  rw [hdotted, hmarked]
  rw [hsplit] at hmarked
  have hsize : Text.byteSize (['.'].intercalate (segments ++ [member])) =
      Text.byteSize (['.'].intercalate segments ++ '#' :: member) := by
    rw [Text.intercalate_concat hne, Text.byteSize_append, Text.byteSize_append]
    rfl
  rw [offset_of_head hdotted, offset_of_head hmarked, hsize]

end Cursor

namespace Spelling

variable {p : Spelling}

theorem head?_index (p : Spelling) : (bracketed '[' ']' p.index).head? ≠ some '(' := by
  cases p.index <;> simp [bracketed]

/-- What stands after the member is in no identifier and no more of the head. -/
theorem head?_tail (p : Spelling) :
    ∀ c ∈ p.tail.head?, isIdentifierPart c = false ∧ c ∉ ['.', '#'] := by
  have hsign : ∀ c ∈ ['(', '['], isIdentifierPart c = false ∧ c ∉ ['.', '#'] := by
    intro c hc
    refine ⟨isIdentifierPart_sign c (by simp_all), ?_⟩
    rcases List.mem_pair.mp hc with rfl | rfl <;> simp
  intro c hc
  apply hsign
  rw [tail] at hc
  cases hp : p.parameters with
  | some body =>
    rw [hp] at hc
    cases hc
    simp
  | none =>
    cases hi : p.index with
    | some digits =>
      rw [hp, hi] at hc
      cases hc
      simp
    | none =>
      rw [hp, hi] at hc
      cases hc

theorem bare_bracketed {opening closing : Char} (ho : Unicode.isBlank opening = false)
    (hc : Unicode.isBlank closing = false) (part : Option (List Char)) :
    Text.Bare (bracketed opening closing part) := by
  cases part with
  | none => exact Text.bare_of_forall (List.forall_mem_nil _)
  | some body => exact Text.bare_enclosed ho hc body

/-- Nothing that stands after the member begins or ends with a blank. -/
theorem bare_tail (p : Spelling) : Text.Bare p.tail := by
  have hsign := isBlank_sign
  exact (bare_bracketed (hsign '(' (by simp)) (hsign ')' (by simp)) _).append
    (bare_bracketed (hsign '[' (by simp)) (hsign ']' (by simp)) _)

/-- The head of a text that writes a spelling is read, and the tail is left. -/
theorem takes_head (o : Nat) {text : List Char} (h : Writes text p) :
    Cursor.Takes Cursor.head o text (p.path.map String.ofList, String.ofList p.member) p.tail := by
  rcases h with rfl | rfl
  · exact Cursor.takes_head_dotted p.tail p.path_isIdentifier p.member_isIdentifier p.head?_tail
  · exact Cursor.takes_head p.tail p.path_isIdentifier p.member_isIdentifier
      fun c hc => (p.head?_tail c hc).1

theorem ne_nil {text : List Char} (h : Writes text p) : text ≠ [] := by
  intro htext
  subst htext
  obtain ⟨o, hhead⟩ := p.takes_head 0 h
  cases hhead

end Spelling

namespace RawReference

/-- A text is read exactly if it writes a spelling, and as what that stands for. -/
theorem scanFrom_eq_ok_iff_written {o : Nat} {text : List Char} {raw : RawReference} :
    scanFrom ⟨o, text⟩ = .ok raw ↔
      ∃ p, Spelling.Writes text p ∧ p.reference = raw := by
  rw [scanFrom_eq_ok_iff]
  constructor
  · intro h
    obtain ⟨-, ⟨o₁, rest₁⟩, ⟨o₂, rest₂⟩, ⟨o₃, rest₃⟩, hhead, hdescriptor, hindex, hend⟩ := h
    obtain ⟨segments, member, hs, hm, hpath, hmember, htext⟩ := Cursor.head_of_takes ⟨o₁, hhead⟩
    obtain ⟨parameters, hparameters, htail, hparams, -⟩ :=
      Cursor.takes_optional_descriptor_iff.mp ⟨o₂, hdescriptor⟩
    obtain ⟨index, hindices, hafter, hplace, -⟩ :=
      Cursor.takes_optional_index_iff.mp ⟨o₃, hindex⟩
    obtain rfl : rest₃ = [] := hend
    rw [List.append_nil] at hafter
    refine ⟨⟨segments, member, parameters, index, hs, hm, hparameters, hindices⟩, ?_, ?_⟩
    · rw [htail, hafter] at htext
      exact htext
    · obtain ⟨path, name, descriptor, place⟩ := raw
      simp only [Spelling.reference, RawReference.mk.injEq]
      exact ⟨hpath.symm, hmember.symm, hparams.symm, hplace.symm⟩
  · intro h
    obtain ⟨p, htext, rfl⟩ := h
    obtain ⟨o₁, hhead⟩ := p.takes_head o htext
    obtain ⟨o₂, hdescriptor⟩ := Cursor.takes_optional_descriptor_iff.mpr
      ⟨p.parameters, p.parameters_isList, rfl, rfl, fun _ => p.head?_index⟩
    obtain ⟨o₃, hindex⟩ := Cursor.takes_optional_index_iff.mpr
      ⟨p.index, p.index_isIndex, (List.append_nil _).symm, rfl, by simp⟩
    exact ⟨p.ne_nil htext, _, _, _, hhead, hdescriptor, hindex, rfl⟩

/-- What is read as a reference has no blanks around it. -/
theorem bare_of_scanFrom {o : Nat} {text : List Char} {raw : RawReference}
    (h : scanFrom ⟨o, text⟩ = .ok raw) : Text.Bare text := by
  obtain ⟨p, htext, -⟩ := scanFrom_eq_ok_iff_written.mp h
  rcases htext with rfl | rfl
  · exact (bare_dotted p.path_isIdentifier p.member_isIdentifier).append p.bare_tail
  · have hbare := (bare_marked p.path_isIdentifier p.member_isIdentifier).append p.bare_tail
    rwa [List.append_assoc] at hbare

/-- A text that scans as it stands scans to the same however blanks are treated. -/
theorem scan_of_scanFrom (trim : Bool) {text : List Char} {raw : RawReference}
    (h : scanFrom ⟨0, text⟩ = .ok raw) : scan trim text = .ok raw := by
  rw [scan_of_bare trim (bare_of_scanFrom h)]
  exact h

/-- A text that scans as it stands scans to the same when it is trimmed. -/
theorem scan_trimmed {text : List Char} {raw : RawReference} (h : scan false text = .ok raw) :
    scan true text = .ok raw :=
  scan_of_scanFrom true h

/-- What is read of a text: without the blanks around it, if they are trimmed. -/
def bodyOf (trim : Bool) (text : List Char) : List Char := if trim then Text.trim text else text

/-- Texts are read just if they write a spelling, and as what it stands for. -/
theorem scan_eq_ok_iff_written {trim : Bool} {text : List Char} {raw : RawReference} :
    scan trim text = .ok raw ↔
      ∃ p, Spelling.Writes (bodyOf trim text) p ∧ p.reference = raw := by
  cases trim with
  | false => exact scanFrom_eq_ok_iff_written
  | true => exact scanFrom_eq_ok_iff_written

section Heads

variable {segments : List (List Char)} {member : List Char}

private theorem scanFrom_dotted_eq_marked (o : Nat) {rest : List Char} (hne : segments ≠ [])
    (hs : ∀ segment ∈ segments, isIdentifier segment = true) (hm : isIdentifier member = true)
    (hrest : ∀ c ∈ rest.head?, isIdentifierPart c = false ∧ c ∉ ['.', '#']) :
    scanFrom ⟨o, ['.'].intercalate (segments ++ [member]) ++ rest⟩ =
      scanFrom ⟨o, ['.'].intercalate segments ++ '#' :: (member ++ rest)⟩ := by
  rw [Cursor.scanFrom_eq_whole, Cursor.scanFrom_eq_whole, Cursor.whole, Cursor.whole,
    Cursor.head_dotted_eq_marked hne hs hm hrest, Text.intercalate_concat hne]
  simp

private theorem scanFrom_blank (o : Nat) {a : Char} (ha : Unicode.isBlank a = true)
    (more : List Char) : scanFrom ⟨o, a :: more⟩ = .error (.invalidCharacter a o) := by
  have hsigns : ∀ sign ∈ ['.', '#', '(', ')', '[', ']', ',', '_', '$'], a ≠ sign := by
    intro sign hsign heq
    rw [heq, isBlank_sign sign hsign] at ha
    cases ha
  have hpunctuation : Cursor.isPunctuation a = false := by
    simp [Cursor.isPunctuation, hsigns]
  have hmark : (a :: more).head? ≠ some '#' := by simp [hsigns]
  have hidentifier : Cursor.identifier ⟨o, a :: more⟩ = .error (.invalidCharacter a o) := by
    simp [Cursor.identifier, isIdentifierStart_eq_false_of_isBlank ha, hpunctuation]
  rw [Cursor.scanFrom_eq_whole, Cursor.whole, Cursor.head_name hmark, hidentifier]
  rfl

private theorem scan_trimmed_lead {lead text : List Char}
    (hlead : ∀ c ∈ lead, Unicode.isBlank c = true) (hne : text ≠ []) (h : Text.Bare text)
    (rest : List Char) : scan true (lead ++ (text ++ rest)) =
      scanFrom ⟨Text.byteSize lead, text ++ Text.trimRight rest⟩ := by
  have hspan : (lead ++ (text ++ rest)).takeWhile Unicode.isBlank = lead := by
    apply Text.takeWhile_append_of_stop hlead
    intro c hc
    obtain ⟨a, more, rfl⟩ := List.exists_cons_of_ne_nil hne
    exact h.1 c hc
  rw [scan, if_pos rfl, hspan, Text.trim_append hlead hne h]

end Heads

/-- The scanner reads the texts that write a spelling and no others, as what the spelling stands
for; and it reads alike, also where it finds a defect, what has a dot and what has a number sign
between the path and the member. -/
theorem scan_grammar (trim : Bool) :
    (∀ text raw, scan trim text = .ok raw ↔
      ∃ p, Spelling.Writes (bodyOf trim text) p ∧ p.reference = raw) ∧
    ∀ (lead rest member : List Char) (path : List (List Char)),
      (∀ c ∈ lead, Unicode.isBlank c = true) → path ≠ [] →
      (∀ name ∈ path, isIdentifier name = true) → isIdentifier member = true →
      (∀ c ∈ rest.head?, isIdentifierPart c = false ∧ c ∉ ['.', '#']) →
      scan trim (lead ++ (['.'].intercalate (path ++ [member]) ++ rest)) =
        scan trim (lead ++ (['.'].intercalate path ++ '#' :: (member ++ rest))) := by
  refine ⟨fun text raw => scan_eq_ok_iff_written, ?_⟩
  intro lead rest member path hlead hne hs hm hrest
  cases trim with
  | false =>
    cases lead with
    | nil => exact scanFrom_dotted_eq_marked 0 hne hs hm hrest
    | cons a more =>
      have ha := hlead a List.mem_cons_self
      exact (scanFrom_blank 0 ha _).trans (scanFrom_blank 0 ha _).symm
  | true =>
    have hmarked : lead ++ (['.'].intercalate path ++ '#' :: (member ++ rest)) =
        lead ++ ((['.'].intercalate path ++ '#' :: member) ++ rest) := by simp
    have hrest' : ∀ c ∈ (Text.trimRight rest).head?,
        isIdentifierPart c = false ∧ c ∉ ['.', '#'] := by
      intro c hc
      apply hrest
      obtain ⟨trailing, htext, -⟩ := Text.exists_trimmedRight rest
      rw [htext, List.head?_append, Option.mem_def.mp hc]
      rfl
    rw [scan_trimmed_lead hlead (by simp [Text.intercalate_concat hne]) (bare_dotted hs hm),
      hmarked, scan_trimmed_lead hlead (by simp) (bare_marked hs hm),
      scanFrom_dotted_eq_marked _ hne hs hm hrest']
    simp

/-- Dot and number sign are alike in an indexed member of a lamp, behind a blank. -/
theorem power_after_dot_or_mark :
    scan true " Lamp.power[2]".toList = .ok ⟨["Lamp"], "power", none, some 2⟩ ∧
      scan true " Lamp.power[2]".toList = scan true " Lamp#power[2]".toList := by
  refine ⟨rfl, ?_⟩
  apply (scan_grammar true).2 [' '] "[2]".toList "power".toList ["Lamp".toList]
  · simp only [List.mem_singleton, forall_eq]
    decide +kernel
  · simp
  · simp only [List.mem_singleton, forall_eq]
    decide +kernel
  · decide +kernel
  · rintro c ⟨⟩
    decide +kernel

end RawReference
end FieldGate
