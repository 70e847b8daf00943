import FieldGate.Proofs.Texts
import FieldGate.Reference.Scan

/-! The readers of the scanner as chains of steps: each reads on where the one before it has
stopped, and a defect ends the chain. Parameter types and an index are read in one way, as
characters of a kind up to the sign that closes them. -/
namespace FieldGate

namespace Cursor

variable {α β : Type}

namespace Scanned

def andThen (x : Scanned α) (f : α → Cursor → Scanned β) : Scanned β :=
  match x with
  | .ok (a, c) => f a c
  | .error d => .error d

end Scanned

variable {c : Cursor} {more : List Char}

theorem past_append (o : Nat) (text rest : List Char) :
    (⟨o, text ++ rest⟩ : Cursor).past text = ⟨o + Text.byteSize text, rest⟩ := by
  simp [past]

theorem past_cons (o : Nat) (c : Char) (rest : List Char) :
    (⟨o, c :: rest⟩ : Cursor).past [c] = ⟨o + Text.byteSize [c], rest⟩ := rfl

theorem names_dot (fuel : Nat) (path : List String) (h : c.rest = '.' :: more) :
    names (fuel + 1) path c =
      (identifier (c.past ['.'])).andThen fun name c => names fuel (path ++ [name]) c := by
  rw [names, h]
  dsimp only
  cases identifier (c.past ['.']) <;> rfl

theorem names_mark (fuel : Nat) (path : List String) (h : c.rest = '#' :: more) :
    names (fuel + 1) path c =
      (identifier (c.past ['#'])).andThen fun name c => .ok ((path, some name), c) := by
  rw [names, h]
  dsimp only
  cases identifier (c.past ['#']) <;> rfl

/-- Without a dot or a number sign there are no more names. -/
theorem names_stop (fuel : Nat) (path : List String) (h : ∀ a ∈ c.rest.head?, a ∉ ['.', '#']) :
    names fuel path c = .ok ((path, none), c) := by
  cases fuel with
  | zero => rfl
  | succ fuel =>
    rw [names]
    split
    · rename_i hdot
      exact absurd (by simp) (h '.' (by rw [hdot]; rfl))
    · rename_i hmark
      exact absurd (by simp) (h '#' (by rw [hmark]; rfl))
    · rfl

/-- What decides whether there are more names. -/
theorem stop_or_dot_or_mark (c : Cursor) :
    (∀ a ∈ c.rest.head?, a ∉ ['.', '#']) ∨ (∃ more, c.rest = '.' :: more) ∨
      ∃ more, c.rest = '#' :: more := by
  cases hrest : c.rest with
  | nil => simp
  | cons a more =>
    by_cases hdot : a = '.'
    · exact .inr (.inl ⟨more, by rw [hdot]⟩)
    · by_cases hmark : a = '#'
      · exact .inr (.inr ⟨more, by rw [hmark]⟩)
      · exact .inl (by simp [hdot, hmark])

theorem head_mark (h : c.rest = '#' :: more) :
    head c = (identifier (c.past ['#'])).andThen fun name c => .ok (([], name), c) := by
  rw [head, h]
  dsimp only
  cases identifier (c.past ['#']) <;> rfl

/-- The last of the names is the member unless one stands after a number sign. -/
def memberOf (first : String) : List String × Option String → List String × String
  | (path, some member) => (path, member)
  | (path, none) => (path.dropLast, path.getLast?.getD first)

theorem head_name (h : c.rest.head? ≠ some '#') :
    head c = (identifier c).andThen fun first c =>
      (names c.rest.length [first] c).andThen fun p c => .ok (memberOf first p, c) := by
  rw [head]
  split
  · rename_i hmark
    exact absurd (by rw [hmark]; rfl) h
  · cases identifier c with
    | error d => rfl
    | ok p =>
      obtain ⟨first, c₁⟩ := p
      dsimp only [Scanned.andThen]
      cases names c₁.rest.length [first] c₁ with
      | error d => rfl
      | ok p =>
        obtain ⟨⟨path, member⟩, c₂⟩ := p
        cases member <;> rfl

theorem optional_eq {sign : Char} {read : Cursor → Scanned α} (h : c.rest = sign :: more) :
    optional sign read c = (read c).andThen fun a c => .ok (some a, c) := by
  rw [optional, if_pos (by rw [h]; rfl)]
  cases read c <;> rfl

/-- Reads characters of a kind up to the sign that has to follow them. -/
def enclosed (p : Char → Bool) (sign : Char) (expected : String)
    (value : Nat → List Char → Except ReferenceDefect α) (c : Cursor) : Scanned α :=
  let after := c.past (c.rest.takeWhile p)
  match after.rest with
  | [] => .error (.unexpectedEnd expected)
  | a :: _ =>
    if a = sign then
      (value c.offset (c.rest.takeWhile p)).map fun v => (v, after.past [sign])
    else .error (.invalidCharacter a after.offset)

section Enclosed

variable {p : Char → Bool} {sign : Char} {expected : String}
  {value : Nat → List Char → Except ReferenceDefect α} {o : Nat} {run : List Char}
  (hrun : ∀ a ∈ run, p a = true)
include hrun

theorem enclosed_end :
    enclosed p sign expected value ⟨o, run⟩ = .error (.unexpectedEnd expected) := by
  have hspan : run.takeWhile p = run := List.takeWhile_eq_self_iff.mpr hrun
  have hpast : (⟨o, run⟩ : Cursor).past run = ⟨o + Text.byteSize run, []⟩ := by simp [past]
  simp only [enclosed, hspan, hpast]

theorem enclosed_sign (hsign : p sign = false) (rest : List Char) :
    enclosed p sign expected value ⟨o, run ++ sign :: rest⟩ =
      (value o run).map (·, ⟨o + Text.byteSize run + Text.byteSize [sign], rest⟩) := by
  have hspan : (run ++ sign :: rest).takeWhile p = run :=
    Text.takeWhile_append_of_stop hrun (by simpa using hsign)
  simp only [enclosed, hspan, past_append, if_true, past_cons]

theorem enclosed_other {a : Char} (ha : p a = false) (hne : a ≠ sign) (rest : List Char) :
    enclosed p sign expected value ⟨o, run ++ a :: rest⟩ =
      .error (.invalidCharacter a (o + Text.byteSize run)) := by
  have hspan : (run ++ a :: rest).takeWhile p = run :=
    Text.takeWhile_append_of_stop hrun (by simpa using ha)
  simp only [enclosed, hspan, past_append, if_neg hne]

end Enclosed

def isPlain (c : Char) : Bool := c != ')' && !isBracket c

theorem isPlain_iff {c : Char} : isPlain c = true ↔ c ∉ ['(', ')', '[', ']', '#'] := by
  simp only [isPlain, isBracket, Bool.and_eq_true, Bool.not_eq_true', Bool.or_eq_false_iff,
    bne_iff_ne, beq_eq_false_iff_ne, List.mem_cons, List.not_mem_nil, or_false, not_or, and_assoc]
  exact and_left_comm

def listed (offset : Nat) (body : List Char) : Except ReferenceDefect (List String) :=
  if body.all Unicode.isBlank then .ok [] else parameters offset (Text.splitOn ',' body)

def indexOf (_ : Nat) (digits : List Char) : Except ReferenceDefect Nat :=
  match readInteger .w32 digits with
  | .ok n => .ok n.toNat
  | .error _ => .error (.invalidIndex (String.ofList digits))

theorem descriptor_eq_enclosed (c : Cursor) :
    descriptor c =
      (c.past ['(']).enclosed isPlain ')' "')'" listed := by
  have hplain : (fun a => a != ')' && !isBracket a) = isPlain := rfl
  rw [descriptor, hplain, enclosed]
  split
  · rename_i hrest
    rw [hrest]
  · rename_i hrest
    simp only [hrest, if_true, listed]
    split <;> rfl
  · rename_i a more hsign hrest
    simp only [hrest, if_neg hsign]

theorem index_eq_enclosed (c : Cursor) :
    index c = (c.past ['[']).enclosed Char.isDigit ']' "']'" indexOf := by
  rw [index, enclosed]
  split
  · rename_i hrest
    rw [hrest]
  · rename_i hrest
    simp only [hrest, if_true, indexOf]
    cases readInteger .w32 ((c.past ['[']).rest.takeWhile Char.isDigit) <;> rfl
  · rename_i a more hsign hrest
    simp only [hrest, if_neg hsign]

/-- The whole of a reference, with the end of the text as its last part. -/
def whole (c : Cursor) : Scanned RawReference :=
  if c.rest.isEmpty then .error (.emptyIdentifier c.offset)
  else c.head.andThen fun (path, member) c =>
    (c.optional '(' descriptor).andThen fun descriptor c =>
      (c.optional '[' index).andThen fun index c =>
        match c.rest with
        | [] => .ok ({ path, member, descriptor, index }, c)
        | a :: _ => .error (.invalidCharacter a c.offset)

theorem scanFrom_eq_whole (c : Cursor) : RawReference.scanFrom c = c.whole.map Prod.fst := by
  unfold RawReference.scanFrom whole
  by_cases hc : c.rest.isEmpty = true
  · rw [if_pos hc, if_pos hc]
    rfl
  · rw [if_neg hc, if_neg hc]
    cases c.head with
    | error d => rfl
    | ok p =>
      obtain ⟨⟨path, member⟩, c₁⟩ := p
      dsimp only [Scanned.andThen, bind, Except.bind, pure, Except.pure]
      cases c₁.optional '(' descriptor with
      | error d => rfl
      | ok p =>
        obtain ⟨descriptor, c₂⟩ := p
        dsimp only
        cases c₂.optional '[' index with
        | error d => rfl
        | ok p =>
          obtain ⟨index, ⟨o, rest⟩⟩ := p
          cases rest <;> rfl

end Cursor
end FieldGate
