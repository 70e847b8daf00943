import FieldGate.Proofs.Integers
import FieldGate.Proofs.Noted
import FieldGate.Proofs.Readers
import FieldGate.Proofs.Texts

/-! What the scanner takes off a text. Each reader is stated with the characters that remain, since
what follows a part decides where the part ends; offsets have no say in what is read. -/
namespace FieldGate

namespace Cursor

variable {α : Type} {o : Nat} {name text rest : List Char}

/-- A reader takes a value off a text and leaves the rest. -/
def Takes (read : Cursor → Scanned α) (o : Nat) (text : List Char) (a : α) (rest : List Char) :
    Prop :=
  ∃ o', read ⟨o, text⟩ = .ok (a, ⟨o', rest⟩)

/-- An identifier is read up to the first character that is no part of one. -/
theorem takes_identifier (hname : isIdentifier name = true)
    (hrest : ∀ c ∈ rest.head?, isIdentifierPart c = false) :
    Takes identifier o (name ++ rest) (String.ofList name) rest := by
  cases name with
  | nil => cases hname
  | cons a more =>
    obtain ⟨ha, hmore⟩ := Bool.and_eq_true_iff.mp hname
    have hspan : (more ++ rest).takeWhile isIdentifierPart = more :=
      Text.takeWhile_append_of_stop (List.all_eq_true.mp hmore) hrest
    refine ⟨o + Text.byteSize (a :: more), ?_⟩
    simp only [identifier, List.cons_append, hspan, ha, if_true]
    rw [← List.cons_append, past_append]

private theorem stop_of_names (segments : List (List Char))
    (hrest : ∀ c ∈ rest.head?, isIdentifierPart c = false) :
    ∀ c ∈ (segments.flatMap ('.' :: ·) ++ rest).head?, isIdentifierPart c = false := by
  intro c hc
  cases segments with
  | nil => exact hrest c hc
  | cons _ _ =>
    cases hc
    exact isIdentifierPart_sign '.' (by simp)

/-- Names after dots are read in turn, and then what follows them. -/
theorem names_segments {segments : List (List Char)} (fuel : Nat) (path : List String)
    (hs : ∀ segment ∈ segments, isIdentifier segment = true)
    (hrest : ∀ c ∈ rest.head?, isIdentifierPart c = false) :
    ∃ o', names (segments.length + fuel) path ⟨o, segments.flatMap ('.' :: ·) ++ rest⟩ =
      names fuel (path ++ segments.map String.ofList) ⟨o', rest⟩ := by
  induction segments generalizing o path with
  | nil => exact ⟨o, by simp⟩
  | cons segment segments ih =>
    obtain ⟨hsegment, hs⟩ := List.forall_mem_cons.mp hs
    obtain ⟨o₁, h₁⟩ := takes_identifier (o := o + Text.byteSize ['.']) hsegment
      (stop_of_names segments hrest)
    obtain ⟨o₂, h₂⟩ := ih (o := o₁) (path ++ [String.ofList segment]) hs
    refine ⟨o₂, ?_⟩
    rw [List.length_cons, Nat.succ_add, List.flatMap_cons, List.cons_append, List.cons_append,
      List.append_assoc, names_dot _ _ rfl, past_cons, h₁]
    simpa [Scanned.andThen] using h₂

/-- More names after dots, then a member after a number sign. -/
theorem takes_names {segments : List (List Char)} {member : List Char} (path : List String)
    {fuel : Nat} (hs : ∀ segment ∈ segments, isIdentifier segment = true)
    (hm : isIdentifier member = true) (hrest : ∀ c ∈ rest.head?, isIdentifierPart c = false)
    (hfuel : segments.length < fuel) :
    Takes (names fuel path) o (segments.flatMap ('.' :: ·) ++ '#' :: (member ++ rest))
      (path ++ segments.map String.ofList, some (String.ofList member)) rest := by
  obtain ⟨k, rfl⟩ := Nat.exists_eq_add_of_lt hfuel
  have hmark : ∀ c ∈ ('#' :: (member ++ rest)).head?, isIdentifierPart c = false := by
    intro c hc
    cases hc
    exact isIdentifierPart_sign '#' (by simp)
  obtain ⟨o₁, h₁⟩ := names_segments (o := o) (k + 1) path hs hmark
  obtain ⟨o₂, h₂⟩ := takes_identifier (o := o₁ + Text.byteSize ['#']) hm hrest
  refine ⟨o₂, ?_⟩
  rw [Nat.add_assoc, h₁, names_mark _ _ rfl, past_cons, h₂]
  rfl

/-- More names after dots, to the end of the names. -/
theorem takes_names_stop {segments : List (List Char)} (path : List String) {fuel : Nat}
    (hs : ∀ segment ∈ segments, isIdentifier segment = true)
    (hrest : ∀ c ∈ rest.head?, isIdentifierPart c = false ∧ c ∉ ['.', '#'])
    (hfuel : segments.length ≤ fuel) :
    Takes (names fuel path) o (segments.flatMap ('.' :: ·) ++ rest)
      (path ++ segments.map String.ofList, none) rest := by
  obtain ⟨k, rfl⟩ := Nat.exists_eq_add_of_le hfuel
  obtain ⟨o₁, h₁⟩ := names_segments (o := o) k path hs fun c hc => (hrest c hc).1
  exact ⟨o₁, h₁.trans (names_stop k _ fun c hc => (hrest c hc).2)⟩

private theorem length_le_flatMap (segments : List (List Char)) :
    segments.length ≤ (segments.flatMap ('.' :: ·)).length := by
  induction segments with
  | nil => simp
  | cons segment segments ih =>
    simp only [List.flatMap_cons, List.length_append, List.length_cons]
    omega

private theorem takes_head_of_names {first after : List Char} {p : List String × Option String}
    (hfirst : isIdentifier first = true) (hstop : ∀ c ∈ after.head?, isIdentifierPart c = false)
    (hnames : ∀ o, Takes (names after.length [String.ofList first]) o after p rest) :
    Takes head o (first ++ after) (memberOf (String.ofList first) p) rest := by
  have hsign : (first ++ after).head? ≠ some '#' := by
    cases first with
    | nil => cases hfirst
    | cons a more =>
      intro ha
      cases ha
      exact notMem_of_isIdentifier hfirst (isIdentifierPart_sign '#' (by simp)) List.mem_cons_self
  obtain ⟨o₁, h₁⟩ := takes_identifier (o := o) hfirst hstop
  obtain ⟨o₂, h₂⟩ := hnames o₁
  refine ⟨o₂, ?_⟩
  rw [head_name hsign, h₁, Scanned.andThen, h₂, Scanned.andThen]

/-- A path, which may be empty, and a member after a number sign. -/
theorem takes_head {segments : List (List Char)} {member : List Char} (rest : List Char)
    (hs : ∀ segment ∈ segments, isIdentifier segment = true) (hm : isIdentifier member = true)
    (hrest : ∀ c ∈ rest.head?, isIdentifierPart c = false) :
    Takes head o (['.'].intercalate segments ++ '#' :: (member ++ rest))
      (segments.map String.ofList, String.ofList member) rest := by
  cases segments with
  | nil =>
    obtain ⟨o', h⟩ := takes_identifier (o := o + Text.byteSize ['#']) hm hrest
    refine ⟨o', (head_mark rfl).trans ?_⟩
    rw [List.intercalate_nil, List.nil_append, past_cons, h]
    rfl
  | cons first segments =>
    obtain ⟨hfirst, hs⟩ := List.forall_mem_cons.mp hs
    have hmark : ∀ c ∈ ('#' :: (member ++ rest)).head?, isIdentifierPart c = false := by
      intro c hc
      cases hc
      exact isIdentifierPart_sign '#' (by simp)
    have hfuel : segments.length <
        (segments.flatMap ('.' :: ·) ++ '#' :: (member ++ rest)).length := by
      have := length_le_flatMap segments
      simp only [List.length_append, List.length_cons]
      omega
    have hhead := takes_head_of_names (o := o) hfirst (stop_of_names segments hmark) fun o =>
      takes_names (o := o) [String.ofList first] hs hm hrest hfuel
    rw [Text.intercalate_cons, List.append_assoc]
    exact hhead

/-- The last of names that stand between dots is the member. -/
theorem memberOf_dotted {first member : List Char} {others segments : List (List Char)}
    (h : first :: others = segments ++ [member]) :
    memberOf (String.ofList first) ([String.ofList first] ++ others.map String.ofList, none) =
      (segments.map String.ofList, String.ofList member) := by
  have hnames : [String.ofList first] ++ others.map String.ofList =
      segments.map String.ofList ++ [String.ofList member] := by
    rw [← List.map_singleton, ← List.map_append, List.singleton_append, h, List.map_append,
      List.map_singleton]
  rw [hnames, memberOf, List.dropLast_concat, List.getLast?_concat, Option.getD_some]

/-- Names between dots, the last of which is the member. -/
theorem takes_head_dotted {segments : List (List Char)} {member : List Char} (rest : List Char)
    (hs : ∀ segment ∈ segments, isIdentifier segment = true) (hm : isIdentifier member = true)
    (hrest : ∀ c ∈ rest.head?, isIdentifierPart c = false ∧ c ∉ ['.', '#']) :
    Takes head o (['.'].intercalate (segments ++ [member]) ++ rest)
      (segments.map String.ofList, String.ofList member) rest := by
  obtain ⟨first, others, hall⟩ := List.exists_cons_of_ne_nil
    (show segments ++ [member] ≠ [] by simp)
  have hnames : ∀ name ∈ first :: others, isIdentifier name = true := by
    rw [← hall]
    exact List.forall_mem_append.mpr ⟨hs, List.forall_mem_singleton.mpr hm⟩
  obtain ⟨hfirst, hothers⟩ := List.forall_mem_cons.mp hnames
  have hfuel : others.length ≤ (others.flatMap ('.' :: ·) ++ rest).length := by
    have := length_le_flatMap others
    rw [List.length_append]
    omega
  rw [hall, Text.intercalate_cons, List.append_assoc, ← memberOf_dotted hall.symm]
  apply takes_head_of_names hfirst (stop_of_names others fun c hc => (hrest c hc).1)
  intro o
  exact takes_names_stop [String.ofList first] hothers hrest hfuel

theorem takes_optional {sign : Char} {read : Cursor → Scanned α} {a : α}
    (h : Takes read o (sign :: text) a rest) :
    Takes (optional sign read) o (sign :: text) (some a) rest := by
  obtain ⟨o', h⟩ := h
  refine ⟨o', ?_⟩
  rw [optional, if_pos (by rfl), h]
  rfl

/-- Without its sign, a part that may be missing is. -/
theorem optional_of_ne {sign : Char} {read : Cursor → Scanned α}
    (h : text.head? ≠ some sign) : optional sign read ⟨o, text⟩ = .ok (none, ⟨o, text⟩) :=
  if_neg h

/-- Parameter types are the parts between the commas, none of them blank. -/
theorem parameters_eq_ok_iff {parts : List (List Char)} {params : List String} :
    parameters o parts = .ok params ↔ (∀ part ∈ parts, Text.withoutBlanks part ≠ []) ∧
      params = parts.map fun part => String.ofList (Text.withoutBlanks part) := by
  induction parts generalizing o params with
  | nil =>
    rw [parameters]
    constructor
    · rintro ⟨⟩
      exact ⟨by simp, rfl⟩
    · rintro ⟨-, rfl⟩
      rfl
  | cons part parts ih =>
    rw [parameters]
    by_cases hpart : Text.withoutBlanks part = []
    · simp [hpart]
    · simp only [List.isEmpty_iff, hpart, if_false, map_eq_ok_iff, ih, List.forall_mem_cons,
        List.map_cons, ne_eq, not_false_eq_true, true_and]
      constructor
      · rintro ⟨_, ⟨hparts, rfl⟩, rfl⟩
        exact ⟨hparts, rfl⟩
      · rintro ⟨hparts, rfl⟩
        exact ⟨_, ⟨hparts, rfl⟩, rfl⟩

/-- The parameter types that a text in parentheses lists: none if it is blank. -/
def Lists (body : List Char) (params : List String) : Prop :=
  ((∀ c ∈ body, Unicode.isBlank c = true) ∧ params = []) ∨
    (∃ c ∈ body, Unicode.isBlank c = false) ∧
      (∀ part ∈ Text.splitOn ',' body, Text.withoutBlanks part ≠ []) ∧
      params = (Text.splitOn ',' body).map fun part => String.ofList (Text.withoutBlanks part)

private theorem listed_eq_ok_iff {body : List Char} {params : List String} :
    listed o body = .ok params ↔ Lists body params := by
  rw [listed, Lists]
  by_cases hblank : ∀ c ∈ body, Unicode.isBlank c = true
  · have hnone : ¬ ∃ c ∈ body, Unicode.isBlank c = false := by simpa using hblank
    rw [if_pos (List.all_eq_true.mpr hblank), Except.ok.injEq, eq_comm]
    simp only [eq_true hblank, hnone, true_and, false_and, or_false]
  · have hsome : ∃ c ∈ body, Unicode.isBlank c = false := by simpa using hblank
    rw [if_neg fun h => hblank (List.all_eq_true.mp h), parameters_eq_ok_iff]
    simp only [hblank, hsome, true_and, false_and, false_or]

/-- What is read of enclosed characters is read of those up to the sign that closes them. -/
theorem takes_enclosed_iff {p : Char → Bool} {sign : Char} {expected : String}
    {value : Nat → List Char → Except ReferenceDefect α} {a : α} (hsign : p sign = false) :
    Takes (enclosed p sign expected value) o text a rest ↔
      ∃ run, text = run ++ sign :: rest ∧ (∀ c ∈ run, p c = true) ∧ value o run = .ok a := by
  obtain ⟨run, after, rfl, hrun, hafter⟩ := Text.exists_append_stop p text
  rw [Text.exists_cut_iff hrun hafter hsign, Takes]
  cases after with
  | nil => simp [enclosed_end hrun]
  | cons b after =>
    by_cases hb : b = sign
    · subst hb
      rw [enclosed_sign hrun hsign]
      cases value o run <;> simp [Except.map, and_comm]
    · simp [enclosed_other hrun (hafter b rfl) hb, hb]

/-- Parameter types stand in parentheses, without parentheses, square brackets or number signs
among them. -/
theorem takes_descriptor_iff {params : List String} :
    Takes descriptor o ('(' :: text) params rest ↔
      ∃ body, text = body ++ ')' :: rest ∧ (∀ c ∈ body, isPlain c = true) ∧ Lists body params := by
  simp only [Takes, descriptor_eq_enclosed, past_cons,
    ← listed_eq_ok_iff (o := o + Text.byteSize ['('])]
  exact takes_enclosed_iff (by decide)

/-- An index is a number of 32 bits in square brackets. -/
theorem takes_index_iff {n : Nat} :
    Takes index o ('[' :: text) n rest ↔
      ∃ digits, text = digits ++ ']' :: rest ∧ (∀ c ∈ digits, c.isDigit = true) ∧
        ∃ i, readInteger .w32 digits = .ok i ∧ i.toNat = n := by
  have hvalue (o : Nat) (digits : List Char) : indexOf o digits = .ok n ↔
      ∃ i, readInteger .w32 digits = .ok i ∧ i.toNat = n := by
    rw [indexOf]
    cases readInteger .w32 digits <;> simp
  simp only [Takes, index_eq_enclosed, past_cons, ← hvalue (o + Text.byteSize ['['])]
  exact takes_enclosed_iff (by decide)

end Cursor

namespace RawReference

variable {raw : RawReference} {c : Cursor}

/-- A reference is a head, parameter types if there are any, an index if there is one, and nothing
after them. -/
theorem scanFrom_eq_ok_iff :
    scanFrom c = .ok raw ↔ c.rest ≠ [] ∧ ∃ c₁ c₂ c₃, c.head = .ok ((raw.path, raw.member), c₁) ∧
      c₁.optional '(' Cursor.descriptor = .ok (raw.descriptor, c₂) ∧
      c₂.optional '[' Cursor.index = .ok (raw.index, c₃) ∧ c₃.rest = [] := by
  unfold scanFrom
  by_cases hc : c.rest = []
  · rw [if_pos (by simpa using hc)]
    constructor
    · rintro ⟨⟩
    · rintro ⟨hne, -⟩
      exact absurd hc hne
  · rw [if_neg (by simpa using hc)]
    constructor
    · intro h
      obtain ⟨⟨⟨path, member⟩, c₁⟩, hhead, h⟩ := bind_eq_ok_iff.mp h
      obtain ⟨⟨descriptor, c₂⟩, hdescriptor, h⟩ := bind_eq_ok_iff.mp h
      obtain ⟨⟨index, c₃⟩, hindex, h⟩ := bind_eq_ok_iff.mp h
      dsimp only at h
      split at h
      · rename_i hend
        cases h
        exact ⟨hc, c₁, c₂, c₃, hhead, hdescriptor, hindex, hend⟩
      · cases h
    · rintro ⟨-, c₁, c₂, c₃, hhead, hdescriptor, hindex, hend⟩
      refine bind_eq_ok_iff.mpr ⟨_, hhead, bind_eq_ok_iff.mpr ⟨_, hdescriptor,
        bind_eq_ok_iff.mpr ⟨_, hindex, ?_⟩⟩⟩
      simp only [hend]
      rfl

/-- An index that was read has 32 bits. -/
theorem fits_of_scanFrom {n : Nat} (h : scanFrom c = .ok raw) (hn : raw.index = some n) :
    IntegerWidth.w32.Fits n := by
  obtain ⟨-, c₁, ⟨o, text⟩, ⟨o', rest⟩, -, -, hindex, -⟩ := scanFrom_eq_ok_iff.mp h
  rw [hn] at hindex
  cases text with
  | nil => cases hindex
  | cons a text =>
    by_cases ha : a = '['
    · subst ha
      rw [Cursor.optional, if_pos (by rfl)] at hindex
      obtain ⟨⟨m, c'⟩, hread, heq⟩ := map_eq_ok_iff.mp hindex
      cases heq
      obtain ⟨digits, -, -, i, hi, rfl⟩ := Cursor.takes_index_iff.mp ⟨o', hread⟩
      obtain ⟨hlo, hhi⟩ := fits_of_readInteger hi
      constructor
      · omega
      · have hlimit : (0 : Int) < IntegerWidth.w32.limit := by decide
        omega
    · rw [Cursor.optional_of_ne (by simpa using ha)] at hindex
      cases hindex

/-- An index that was read has 32 bits. -/
theorem fits_of_scan {trim : Bool} {text : List Char} {n : Nat} (h : scan trim text = .ok raw)
    (hn : raw.index = some n) : IntegerWidth.w32.Fits n := by
  cases trim with
  | true => exact fits_of_scanFrom h hn
  | false => exact fits_of_scanFrom h hn

/-- A text without blanks at its ends is read from its start, trimmed or not. -/
theorem scan_of_bare (trim : Bool) {text : List Char} (h : Text.Bare text) :
    scan trim text = scanFrom ⟨0, text⟩ := by
  cases trim with
  | false => rfl
  | true =>
    have hspan : text.takeWhile Unicode.isBlank = [] :=
      Text.takeWhile_append_of_stop (List.forall_mem_nil _) h.1
    rw [scan, if_pos rfl, hspan, h.trim_eq_self]
    rfl

section Printed

variable {segments : List (List Char)} {member : List Char}

def headText (segments : List (List Char)) (member rest : List Char) : List Char :=
  ['.'].intercalate segments ++ '#' :: (member ++ rest)

def indexText : Option Nat → List Char
  | some n => '[' :: (digitsOfNat n ++ [']'])
  | none => []

private theorem isBlank_names {names : List (List Char)}
    (h : ∀ name ∈ names, isIdentifier name = true) :
    ∀ c ∈ ['.'].intercalate names, Unicode.isBlank c = false := by
  intro c hc
  rcases Text.mem_or_mem_of_mem_intercalate hc with hc | ⟨name, hname, hc⟩
  · rw [List.mem_singleton.mp hc]
    exact isBlank_sign '.' (by simp)
  · exact isBlank_eq_false_of_isIdentifierPart (isIdentifierPart_of_mem (h name hname) hc)

theorem bare_dotted (hs : ∀ segment ∈ segments, isIdentifier segment = true)
    (hm : isIdentifier member = true) : Text.Bare (['.'].intercalate (segments ++ [member])) := by
  apply Text.bare_of_forall
  apply isBlank_names
  exact List.forall_mem_append.mpr ⟨hs, List.forall_mem_singleton.mpr hm⟩

theorem bare_marked (hs : ∀ segment ∈ segments, isIdentifier segment = true)
    (hm : isIdentifier member = true) :
    Text.Bare (['.'].intercalate segments ++ '#' :: member) := by
  apply Text.bare_of_forall
  intro c hc
  rcases List.mem_append.mp hc with hc | hc
  · exact isBlank_names hs c hc
  · rcases List.mem_cons.mp hc with rfl | hc
    · exact isBlank_sign '#' (by simp)
    · exact isBlank_eq_false_of_isIdentifierPart (isIdentifierPart_of_mem hm hc)

/-- Such a text has no blank to trim, unless there is one at an end of what stands after the
member. -/
theorem scan_headText (trim : Bool) {rest : List Char}
    (hs : ∀ segment ∈ segments, isIdentifier segment = true) (hm : isIdentifier member = true)
    (hrest : Text.Bare rest) :
    scan trim (headText segments member rest) = scanFrom ⟨0, headText segments member rest⟩ := by
  apply scan_of_bare
  have hbare := (bare_marked hs hm).append hrest
  rwa [List.append_assoc] at hbare

/-- A member without parameter types, by itself or with an index. -/
theorem scanFrom_field (o : Nat) (hs : ∀ segment ∈ segments, isIdentifier segment = true)
    (hm : isIdentifier member = true) (index : Option Nat)
    (hfits : ∀ n, index = some n → IntegerWidth.w32.Fits n) :
    scanFrom ⟨o, headText segments member (indexText index)⟩ =
      .ok { path := segments.map String.ofList, member := String.ofList member, index } := by
  rw [scanFrom_eq_ok_iff]
  refine ⟨by simp [headText], ?_⟩
  cases index with
  | none =>
    obtain ⟨o₁, hhead⟩ := Cursor.takes_head (o := o) [] hs hm (by simp)
    exact ⟨_, _, _, hhead, Cursor.optional_of_ne (by simp), Cursor.optional_of_ne (by simp), rfl⟩
  | some n =>
    obtain ⟨o₁, hhead⟩ := Cursor.takes_head (o := o) ('[' :: (digitsOfNat n ++ [']'])) hs hm (by
      rintro c ⟨⟩
      exact isIdentifierPart_sign '[' (by simp))
    have hindex : Cursor.Takes Cursor.index o₁ ('[' :: (digitsOfNat n ++ [']'])) n [] :=
      Cursor.takes_index_iff.mpr ⟨digitsOfNat n, rfl,
        fun c hc => Nat.isDigit_of_mem_toDigits (by decide) (by decide) hc, n,
        readInteger_digitsOfInt (hfits n rfl), rfl⟩
    obtain ⟨o₂, hindex⟩ := Cursor.takes_optional hindex
    exact ⟨_, _, _, hhead, Cursor.optional_of_ne (by simp), hindex, rfl⟩

/-- A member with parameter types in parentheses is read exactly if the text in the parentheses
lists them. -/
theorem scanFrom_method_iff {raw : RawReference} (o : Nat)
    (hs : ∀ segment ∈ segments, isIdentifier segment = true) (hm : isIdentifier member = true)
    (body : List Char) :
    scanFrom ⟨o, headText segments member ('(' :: (body ++ [')']))⟩ = .ok raw ↔
      (∀ c ∈ body, Cursor.isPlain c = true) ∧ ∃ params, Cursor.Lists body params ∧
        raw = { path := segments.map String.ofList, member := String.ofList member,
                descriptor := some params } := by
  obtain ⟨o₁, hhead⟩ := Cursor.takes_head (o := o) ('(' :: (body ++ [')'])) hs hm (by
    rintro c ⟨⟩
    exact isIdentifierPart_sign '(' (by simp))
  rw [scanFrom_eq_ok_iff]
  constructor
  · obtain ⟨path, name, descriptor, index⟩ := raw
    rintro ⟨-, c₁, ⟨o₂, rest⟩, ⟨o₃, after⟩, hhead', hdescriptor, hindex, hend⟩
    cases hhead.symm.trans hhead'
    rw [Cursor.optional, if_pos (by rfl)] at hdescriptor
    obtain ⟨⟨params, c'⟩, hread, heq⟩ := map_eq_ok_iff.mp hdescriptor
    cases heq
    obtain ⟨body', hcut, hplain, hlists⟩ := Cursor.takes_descriptor_iff.mp ⟨o₂, hread⟩
    cases rest with
    | nil =>
      obtain rfl := List.append_cancel_right hcut
      rw [Cursor.optional_of_ne (by simp)] at hindex
      cases hindex
      exact ⟨hplain, params, hlists, rfl⟩
    | cons a text =>
      -- what follows the parentheses ends in one, and so is no index
      exfalso
      by_cases ha : a = '['
      · subst ha
        rw [Cursor.optional, if_pos (by rfl)] at hindex
        obtain ⟨⟨n, c'⟩, hread, heq⟩ := map_eq_ok_iff.mp hindex
        cases heq
        obtain ⟨digits, rfl, -⟩ := Cursor.takes_index_iff.mp ⟨o₃, hread⟩
        have hends : body ++ [')'] = (body' ++ ')' :: '[' :: digits) ++ [']'] := by
          rw [hcut, show after = [] from hend]
          simp
        exact absurd (List.append_inj' hends rfl).2 (by decide)
      · rw [Cursor.optional_of_ne (by simpa using ha)] at hindex
        cases hindex
        cases hend
  · rintro ⟨hplain, params, hlists, rfl⟩
    have hread : Cursor.Takes Cursor.descriptor o₁ ('(' :: (body ++ [')'])) params [] :=
      Cursor.takes_descriptor_iff.mpr ⟨body, rfl, hplain, hlists⟩
    obtain ⟨o₂, hread⟩ := Cursor.takes_optional hread
    exact ⟨by simp [headText], _, _, _, hhead, hread, Cursor.optional_of_ne (by simp), rfl⟩

end Printed

end RawReference
end FieldGate
