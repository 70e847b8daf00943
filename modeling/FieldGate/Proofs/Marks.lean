import FieldGate.Pattern.Engine
import FieldGate.Proofs.StandardEngine

/-! Matching by marks finds a match just if there is one. A mark stands for a match under way, and
one more character moves the marks along all matches at once. -/
namespace FieldGate.Pattern

namespace Marking

variable {m p q : Marking} {a b : Place} {enter : Bool} {c : Char} {rest : List Char}

def spans : Marking → Place → Place → Prop
  | nothing => Eq
  | set r _ => reads (r.has ·.toNat = true)
  | look l => l.passes
  | both p q _ => Relation.Comp p.spans q.spans
  | either p q _ => fun a b => p.spans a b ∨ q.spans a b
  | many p => Relation.ReflTransGen p.spans

/-- Whether a match under way at one place, where a mark is, can end at another. -/
def goesOn : Marking → Place → Place → Prop
  | nothing | look _ => fun _ _ => False
  | set _ marked => fun a b => marked = true ∧ a = b
  | both p q _ => fun a b => Relation.Comp p.goesOn q.spans a b ∨ q.goesOn a b
  | either p q _ => fun a b => p.goesOn a b ∨ q.goesOn a b
  | many p => Relation.Comp p.goesOn (Relation.ReflTransGen p.spans)

/-- Whether a match under way, or one that begins here if `enter` is set, can end at a place. -/
def leads (m : Marking) (enter : Bool) (a b : Place) : Prop :=
  (enter = true ∧ m.spans a b) ∨ m.goesOn a b

/-- Sequences and choices know whether there is a mark in them. -/
def Sound : Marking → Prop
  | nothing | look _ | set .. => True
  | both p q live | either p q live => p.Sound ∧ q.Sound ∧ live = (p.live || q.live)
  | many p => p.Sound

theorem onward_spans (m : Marking) : Onward m.spans := by
  induction m with
  | nothing => exact onward_eq
  | set r _ => exact onward_reads _
  | look l => exact l.onward_passes
  | both p q _ hp hq => exact hp.comp hq
  | either p q _ hp hq => exact fun a b h => h.elim (hp a b) (hq a b)
  | many p hp => exact hp.reflTransGen

theorem onward_goesOn (m : Marking) : Onward m.goesOn := by
  induction m with
  | nothing | look _ => exact fun _ _ h => h.elim
  | set r _ => exact fun a b h => onward_eq a b h.2
  | both p q _ hp hq => exact fun a b h => h.elim (hp.comp q.onward_spans a b) (hq a b)
  | either p q _ hp hq => exact fun a b h => h.elim (hp a b) (hq a b)
  | many p hp => exact hp.comp p.onward_spans.reflTransGen

theorem onward_leads (m : Marking) (enter : Bool) : Onward (m.leads enter) :=
  fun a b h => h.elim (fun h => m.onward_spans a b h.2) (m.onward_goesOn a b)

theorem leads_both {live : Bool} : (both p q live).leads enter a b ↔
    Relation.Comp (p.leads enter) q.spans a b ∨ q.goesOn a b := by
  constructor
  · rintro (⟨henter, mid, hmid, hb⟩ | ⟨mid, hmid, hb⟩ | h)
    · exact .inl ⟨mid, .inl ⟨henter, hmid⟩, hb⟩
    · exact .inl ⟨mid, .inr hmid, hb⟩
    · exact .inr h
  · rintro (⟨mid, ⟨henter, hmid⟩ | hmid, hb⟩ | h)
    · exact .inl ⟨henter, mid, hmid, hb⟩
    · exact .inr (.inl ⟨mid, hmid, hb⟩)
    · exact .inr (.inr h)

theorem leads_either {live : Bool} :
    (either p q live).leads enter a b ↔ p.leads enter a b ∨ q.leads enter a b := by
  rw [leads, spans, goesOn, and_or_left, or_or_or_comm]
  rfl

/-- Without a mark nothing goes on. -/
theorem Sound.live_of_goesOn (h : m.Sound) (hgo : m.goesOn a b) : m.live = true := by
  induction m generalizing a b with
  | nothing | look _ => exact hgo.elim
  | set r marked => exact hgo.1
  | both p q live hp hq =>
    obtain ⟨hsp, hsq, rfl⟩ := h
    rcases hgo with ⟨mid, hmid, -⟩ | hgo
    · rw [Marking.live, hp hsp hmid, Bool.true_or]
    · rw [Marking.live, hq hsq hgo, Bool.or_true]
  | either p q live hp hq =>
    obtain ⟨hsp, hsq, rfl⟩ := h
    rcases hgo with hgo | hgo
    · rw [Marking.live, hp hsp hgo, Bool.true_or]
    · rw [Marking.live, hq hsq hgo, Bool.or_true]
  | many p hp =>
    obtain ⟨mid, hmid, -⟩ := hgo
    exact hp h hmid

/-- Nothing matches in a part without marks that is not entered. -/
theorem Sound.not_leads (h : m.Sound) (hidle : (enter || m.live) = false) :
    ¬ m.leads enter a b := by
  obtain ⟨henter, hlive⟩ := Bool.or_eq_false_iff.mp hidle
  rintro (⟨henter', -⟩ | hgo)
  · rw [henter] at henter'
    cases henter'
  · rw [h.live_of_goesOn hgo] at hlive
    cases hlive

/-- A match can end without reading on just if it leads from the place to itself. -/
theorem Sound.ends_iff (h : m.Sound) (a : Place) (enter : Bool) :
    m.ends a.before.head? a.after.head? enter = true ↔ m.leads enter a a := by
  induction m generalizing enter with
  | nothing => simp [ends, leads, spans, goesOn]
  | set r marked =>
    have hreads : ¬ reads (r.has ·.toNat = true) a a := by
      rintro ⟨c, rest, -, -, heq⟩
      exact Place.next_ne heq.symm
    simp [ends, leads, spans, goesOn, hreads]
  | look l => simp [ends, leads, spans, goesOn, Look.passes]
  | both p q live hp hq =>
    obtain ⟨hsp, hsq, hlive⟩ := h
    rw [ends]
    split
    · rw [hq hsq, leads_both, leads, hp hsp]
      refine or_congr_left ⟨fun h => ⟨a, h⟩, ?_⟩
      rintro ⟨mid, hmid, hb⟩
      -- nothing is read on the way, so the place between is the same
      obtain rfl := le_antisymm (p.onward_leads enter a mid hmid) (q.onward_spans mid a hb)
      exact ⟨hmid, hb⟩
    · rename_i hidle
      refine iff_of_false Bool.false_ne_true (Sound.not_leads ⟨hsp, hsq, hlive⟩ ?_)
      exact Bool.eq_false_iff.mpr hidle
  | either p q live hp hq =>
    obtain ⟨hsp, hsq, hlive⟩ := h
    rw [ends]
    split
    · rw [Bool.or_eq_true, hp hsp, hq hsq, leads_either]
    · rename_i hidle
      refine iff_of_false Bool.false_ne_true (Sound.not_leads ⟨hsp, hsq, hlive⟩ ?_)
      exact Bool.eq_false_iff.mpr hidle
  | many p hp =>
    rw [ends, Bool.or_eq_true, hp h]
    constructor
    · rintro (henter | ⟨henter, -⟩ | hgo)
      · exact .inl ⟨henter, .refl⟩
      · exact .inl ⟨henter, .refl⟩
      · exact .inr ⟨a, hgo, .refl⟩
    · rintro (⟨henter, -⟩ | ⟨mid, hmid, hb⟩)
      · exact .inl henter
      · obtain rfl :=
          le_antisymm (p.onward_goesOn a mid hmid) (p.onward_spans.reflTransGen mid a hb)
        exact .inr (.inr hmid)

theorem spans_andThen (p q : Marking) : (p.andThen q).spans = Relation.Comp p.spans q.spans := by
  unfold andThen
  split
  · rw [spans, Relation.eq_comp]
  · rw [spans, Relation.comp_eq]
  · rfl

theorem goesOn_andThen (p q : Marking) :
    (p.andThen q).goesOn a b ↔ Relation.Comp p.goesOn q.spans a b ∨ q.goesOn a b := by
  unfold andThen
  split
  · simp [goesOn, Relation.Comp]
  · simp [goesOn, spans, Relation.comp_eq]
  · rfl

theorem Sound.andThen (hp : p.Sound) (hq : q.Sound) : (p.andThen q).Sound := by
  unfold Marking.andThen
  split
  · exact hq
  · exact hp
  · exact ⟨hp, hq, rfl⟩

theorem Sound.orElse (hp : p.Sound) (hq : q.Sound) : (p.orElse q).Sound := ⟨hp, hq, rfl⟩

theorem live_andThen (p q : Marking) : (p.andThen q).live = (p.live || q.live) := by
  unfold andThen
  split <;> simp [live]

/-- Marks do not change what begins to match. -/
theorem spans_read (before : Option Char) (c : Char) (m : Marking) (enter : Bool) :
    (m.read before c enter).spans = m.spans := by
  induction m generalizing enter with
  | nothing | look _ => rfl
  | set r marked => rfl
  | both p q live hp hq =>
    rw [read]
    split
    · rw [spans_andThen, hp, hq, spans]
    · rfl
  | either p q live hp hq =>
    rw [read]
    split
    · rw [Marking.orElse, spans, hp, hq, spans]
    · rfl
  | many p hp => rw [read, spans, hp, spans]

theorem Sound.read (h : m.Sound) (before : Option Char) (c : Char) (enter : Bool) :
    (m.read before c enter).Sound := by
  induction m generalizing enter with
  | nothing | look _ => exact h
  | set r marked => trivial
  | both p q live hp hq =>
    rw [Marking.read]
    split
    · exact (hp h.1 enter).andThen (hq h.2.1 _)
    · exact h
  | either p q live hp hq =>
    rw [Marking.read]
    split
    · exact (hp h.1 enter).orElse (hq h.2.1 enter)
    · exact h
  | many p hp => exact hp h _

private theorem Sound.goesOn_idle (h : m.Sound) (hidle : (enter || m.live) = false) (a' : Place) :
    m.goesOn a' b ↔ b ≠ a ∧ m.leads enter a b := by
  refine iff_of_false (fun hgo => ?_) (fun hleads => h.not_leads hidle hleads.2)
  rw [h.live_of_goesOn hgo, Bool.or_true] at hidle
  cases hidle

/-- After a character, what goes on is what led from before the character to a later place. -/
theorem Sound.goesOn_read (h : m.Sound) (hp : a.after = c :: rest) (enter : Bool) (b : Place) :
    (m.read a.before.head? c enter).goesOn (a.next c rest) b ↔ b ≠ a ∧ m.leads enter a b := by
  have hends (m : Marking) (hm : m.Sound) (enter : Bool) :
      m.ends a.before.head? (some c) enter = true ↔ m.leads enter a a := by
    have := hm.ends_iff a enter
    rwa [hp] at this
  induction m generalizing b enter with
  | nothing =>
    refine iff_of_false id ?_
    rintro ⟨hne, ⟨-, rfl⟩ | hgo⟩
    · exact hne rfl
    · exact hgo
  | look l =>
    refine iff_of_false id ?_
    rintro ⟨hne, ⟨-, rfl, -⟩ | hgo⟩
    · exact hne rfl
    · exact hgo
  | set r marked =>
    simp only [Marking.read, goesOn, leads, spans, reads, hp, Bool.and_eq_true]
    constructor
    · rintro ⟨⟨henter, hc⟩, rfl⟩
      exact ⟨Place.next_ne, .inl ⟨henter, c, rest, rfl, hc, rfl⟩⟩
    · rintro ⟨hne, ⟨henter, d, rest', heq, hd, rfl⟩ | ⟨-, rfl⟩⟩
      · obtain ⟨rfl, rfl⟩ := List.cons.inj heq
        exact ⟨⟨henter, hd⟩, rfl⟩
      · exact absurd rfl hne
  | both p q live ihp ihq =>
    have ⟨hsp, hsq, hlive⟩ := h
    rw [Marking.read]
    split
    · have hstays : q.leads (p.ends a.before.head? (some c) enter) a b ↔
          (p.leads enter a a ∧ q.spans a b) ∨ q.goesOn a b :=
        or_congr_left (and_congr_left' (hends p hsp enter))
      rw [goesOn_andThen, spans_read, leads_both, and_or_left,
        comp_later_iff (p.onward_leads enter) q.onward_spans, or_assoc, ← and_or_left, ← hstays]
      exact or_congr (exists_congr fun mid => and_congr_left' (ihp hsp enter mid)) (ihq hsq _ b)
    · rename_i hidle
      exact Sound.goesOn_idle h (Bool.eq_false_iff.mpr hidle) _
  | either p q live ihp ihq =>
    have ⟨hsp, hsq, hlive⟩ := h
    rw [Marking.read]
    split
    · rw [leads_either, and_or_left]
      exact or_congr (ihp hsp enter b) (ihq hsq enter b)
    · rename_i hidle
      exact Sound.goesOn_idle h (Bool.eq_false_iff.mpr hidle) _
  | many p ihp =>
    have hstar : Onward (Relation.ReflTransGen p.spans) := p.onward_spans.reflTransGen
    -- a turn begins if the part is entered, or behind a turn that ends at the place
    have hbegins : (enter || p.ends a.before.head? (some c) enter) = true ↔
        enter = true ∨ p.goesOn a a := by
      rw [Bool.or_eq_true, hends p h enter, leads]
      constructor
      · rintro (henter | ⟨henter, -⟩ | hgo)
        · exact .inl henter
        · exact .inl henter
        · exact .inr hgo
      · exact Or.imp_right .inr
    have hturn (mid : Place) := (ihp h (enter || p.ends a.before.head? (some c) enter) mid).trans
      (and_congr_right' (or_congr_left (and_congr_left' hbegins)))
    rw [Marking.read, goesOn, spans_read, leads, spans, goesOn, and_or_left, and_left_comm,
      comp_later_iff p.onward_goesOn hstar, and_left_comm (a := b ≠ a) (b := p.goesOn a a),
      reflTransGen_later_iff p.onward_spans]
    refine (exists_congr fun mid => and_congr_left' (hturn mid)).trans ⟨?_, ?_⟩
    · rintro ⟨mid, ⟨hne, ⟨henter | hgo, hmid⟩ | hmid⟩, hb⟩
      · exact .inl ⟨henter, mid, ⟨hne, hmid⟩, hb⟩
      · exact .inr (.inr ⟨hgo, mid, ⟨hne, hmid⟩, hb⟩)
      · exact .inr (.inl ⟨mid, ⟨hne, hmid⟩, hb⟩)
    · rintro (⟨henter, mid, ⟨hne, hmid⟩, hb⟩ | ⟨mid, ⟨hne, hmid⟩, hb⟩ |
        ⟨hgo, mid, ⟨hne, hmid⟩, hb⟩)
      · exact ⟨mid, ⟨hne, .inl ⟨.inl henter, hmid⟩⟩, hb⟩
      · exact ⟨mid, ⟨hne, .inr hmid⟩, hb⟩
      · exact ⟨mid, ⟨hne, .inl ⟨.inr hgo, hmid⟩⟩, hb⟩

/-- The search finds a match just if one is under way or begins at a later place. -/
theorem Sound.search_iff (h : m.Sound) (a : Place) :
    m.search a.before.head? a.after = true ↔
      ∃ b, m.goesOn a b ∨ ∃ a', a ≤ a' ∧ m.spans a' b := by
  obtain ⟨before, after⟩ := a
  induction after generalizing m before with
  | nil =>
    rw [search]
    refine (h.ends_iff ⟨before, []⟩ true).trans ⟨?_, ?_⟩
    · rintro (⟨-, hb⟩ | hb)
      · exact ⟨_, .inr ⟨_, le_refl _, hb⟩⟩
      · exact ⟨_, .inl hb⟩
    · rintro ⟨b, hb | ⟨a', ha', hb⟩⟩
      · obtain rfl := Place.eq_of_after_eq_nil rfl (m.onward_goesOn _ _ hb)
        exact .inr hb
      · obtain rfl := Place.eq_of_after_eq_nil rfl ha'
        obtain rfl := Place.eq_of_after_eq_nil rfl (m.onward_spans _ _ hb)
        exact .inl ⟨rfl, hb⟩
  | cons c rest ih =>
    let a : Place := ⟨before, c :: rest⟩
    have hends : m.ends before.head? (some c) true = true ↔ m.leads true a a := h.ends_iff a true
    have hrest := ih (h.read before.head? c true) (c :: before)
    have hgo (b : Place) := h.goesOn_read (a := a) rfl true b
    rw [search, Bool.or_eq_true, hends]
    refine (or_congr_right hrest).trans ⟨?_, ?_⟩
    · rintro ((⟨-, hb⟩ | hb) | ⟨b, hb | ⟨a', ha', hb⟩⟩)
      · exact ⟨a, .inr ⟨a, le_refl a, hb⟩⟩
      · exact ⟨a, .inl hb⟩
      · obtain ⟨-, ⟨-, hb⟩ | hb⟩ := (hgo b).mp hb
        · exact ⟨b, .inr ⟨a, le_refl a, hb⟩⟩
        · exact ⟨b, .inl hb⟩
      · rw [spans_read] at hb
        exact ⟨b, .inr ⟨a', le_trans (Place.le_next (p := a) rfl) ha', hb⟩⟩
    · rintro ⟨b, hb | ⟨a', ha', hb⟩⟩
      · by_cases hba : b = a
        · subst hba
          exact .inl (.inr hb)
        · exact .inr ⟨b, .inl ((hgo b).mpr ⟨hba, .inr hb⟩)⟩
      · by_cases haa : a' = a
        · subst haa
          by_cases hba : b = a
          · subst hba
            exact .inl (.inl ⟨rfl, hb⟩)
          · exact .inr ⟨b, .inl ((hgo b).mpr ⟨hba, .inl ⟨rfl, hb⟩⟩)⟩
        · refine .inr ⟨b, .inr ⟨a', Place.next_le (p := a) rfl ha' haa, ?_⟩⟩
          rw [spans_read]
          exact hb

def Fresh (m : Marking) : Prop := m.Sound ∧ m.live = false

theorem Fresh.andThen (hp : p.Fresh) (hq : q.Fresh) : (p.andThen q).Fresh :=
  ⟨hp.1.andThen hq.1, by rw [live_andThen, hp.2, hq.2]; rfl⟩

theorem Fresh.orElse (hp : p.Fresh) (hq : q.Fresh) : (p.orElse q).Fresh :=
  ⟨hp.1.orElse hq.1, by rw [Marking.orElse, live, hp.2, hq.2]; rfl⟩

/-- Nothing is under way yet. -/
theorem Fresh.not_goesOn (h : m.Fresh) : ¬ m.goesOn a b := fun hgo => by
  have hlive := h.1.live_of_goesOn hgo
  rw [h.2] at hlive
  cases hlive

/-- What is so of no markings and of one, and is kept by joining, is so of any number of them. -/
theorem gather_induction {motive : List Marking → Marking → Prop}
    {join : Marking → Marking → Marking} {none : Marking} (ps : List Marking) (nil : motive [] none)
    (singleton : ∀ p ∈ ps, motive [p] p)
    (append : ∀ xs ys x y, motive xs x → motive ys y → motive (xs ++ ys) (join x y)) :
    motive ps (gather join none ps) := by
  induction ps using gather.induct with
  | case1 => rwa [gather]
  | case2 p =>
    rw [gather]
    exact singleton p (List.mem_singleton_self p)
  | case3 p q rest ihleft ihright =>
    rw [gather]
    have hleft := ihleft fun x hx => singleton x (List.mem_of_mem_take hx)
    have hright := ihright fun x hx => singleton x (List.mem_of_mem_drop hx)
    have := append _ _ _ _ hleft hright
    rwa [List.take_append_drop] at this

/-- What is so of no turn and of one, and is kept by one after another, is so of any number. -/
theorem times_induction {motive : Nat → Marking → Prop} (p : Marking) (n : Nat)
    (zero : motive 0 nothing) (one : motive 1 p)
    (add : ∀ m n x y, motive m x → motive n y → motive (m + n) (x.andThen y)) :
    motive n (p.times n) := by
  induction n using Nat.strongRecOn with
  | ind n ih =>
    unfold times
    split
    · rename_i h
      rwa [h]
    · split
      · rename_i h
        rwa [h]
      · have hhalf := ih (n / 2) (by omega)
        have htwice := add _ _ _ _ hhalf hhalf
        dsimp only
        split
        · rwa [show n / 2 + n / 2 = n by omega] at htwice
        · have hodd := add _ _ _ _ one htwice
          rwa [show 1 + (n / 2 + n / 2) = n by omega] at hodd

theorem fresh_nothing : Fresh nothing := ⟨trivial, rfl⟩

theorem fresh_set (r : Unicode.Ranges) : Fresh (set r false) := ⟨trivial, rfl⟩

theorem Fresh.times (h : p.Fresh) (n : Nat) : (p.times n).Fresh :=
  times_induction (motive := fun _ m => m.Fresh) p n fresh_nothing h
    fun _ _ _ _ hx hy => hx.andThen hy

theorem spans_times (p : Marking) (n : Nat) : (p.times n).spans = Times p.spans n := by
  refine times_induction (motive := fun n m => m.spans = Times p.spans n) p n rfl
    times_one.symm ?_
  intro m n x y hx hy
  rw [spans_andThen, hx, hy, times_add]

theorem spans_orElse (p q : Marking) : (p.orElse q).spans a b ↔ p.spans a b ∨ q.spans a b :=
  Iff.rfl

theorem Fresh.upTo (h : p.Fresh) (n : Nat) : (p.upTo n).Fresh := by
  induction n using Nat.strongRecOn with
  | ind n ih =>
    unfold Marking.upTo
    split
    · exact fresh_nothing
    · split
      · exact fresh_nothing.orElse h
      · have hhalf := ih (n / 2) (by omega)
        have heven := hhalf.orElse ((h.times (n / 2)).andThen hhalf)
        dsimp only
        split
        · exact heven
        · exact fresh_nothing.orElse (h.andThen heven)

/-- Up to so many turns come about in one of two halves, and with one turn more if need be. -/
theorem spans_upTo (p : Marking) (n : Nat) : (p.upTo n).spans = TimesUpTo p.spans n := by
  induction n using Nat.strongRecOn with
  | ind n ih =>
    funext a b
    refine propext ?_
    unfold upTo
    split
    · rename_i h
      rw [h, spans, timesUpTo_zero]
    · split
      · rename_i h
        rw [h, spans_orElse, spans, timesUpTo_add (m := 1) (n := 0) 0 (Nat.le_refl 1)
          (Nat.zero_le 1), timesUpTo_zero, times_one, Relation.comp_eq]
      · -- as many turns as both halves can take
        have hhalves :
            ((p.upTo (n / 2)).orElse ((p.times (n / 2)).andThen (p.upTo (n / 2)))).spans =
              TimesUpTo p.spans (n / 2 + n / 2) := by
          funext a b
          refine propext ?_
          rw [spans_orElse, spans_andThen, spans_times, ih (n / 2) (by omega),
            timesUpTo_add (n / 2) (Nat.le_succ _) (Nat.le_add_right _ _)]
        dsimp only
        split
        · rw [hhalves, show n / 2 + n / 2 = n by omega]
        · have hodd : n = 1 + (n / 2 + n / 2) := by omega
          rw [spans_orElse, spans_andThen, spans, hhalves, hodd,
            timesUpTo_add 0 (Nat.le_refl 1) (Nat.zero_le _), timesUpTo_zero, times_one,
            ← hodd]

def spansInTurn : List Marking → Place → Place → Prop
  | [] => Eq
  | p :: rest => Relation.Comp p.spans (spansInTurn rest)

theorem spansInTurn_append (ps qs : List Marking) :
    spansInTurn (ps ++ qs) = Relation.Comp (spansInTurn ps) (spansInTurn qs) := by
  induction ps with
  | nil => rw [List.nil_append, spansInTurn, Relation.eq_comp]
  | cons p ps ih => rw [List.cons_append, spansInTurn, ih, spansInTurn, Relation.comp_assoc]

theorem spans_gather_andThen (ps : List Marking) :
    (gather andThen nothing ps).spans = spansInTurn ps := by
  refine gather_induction (motive := fun ps m => m.spans = spansInTurn ps) ps rfl ?_ ?_
  · intro p _
    rw [spansInTurn, spansInTurn, Relation.comp_eq]
  · intro xs ys x y hx hy
    rw [spans_andThen, hx, hy, spansInTurn_append]

theorem spans_gather_orElse (ps : List Marking) :
    (gather orElse (set [] false) ps).spans a b ↔ ∃ p ∈ ps, p.spans a b := by
  refine gather_induction (motive := fun ps m => m.spans a b ↔ ∃ p ∈ ps, p.spans a b) ps ?_ ?_ ?_
  · refine iff_of_false ?_ ?_
    · rintro ⟨c, rest, -, hc, -⟩
      cases hc
    · rintro ⟨p, hp, -⟩
      cases hp
  · intro p _
    constructor
    · exact fun h => ⟨p, List.mem_singleton_self p, h⟩
    · rintro ⟨q, hq, h⟩
      obtain rfl := List.mem_singleton.mp hq
      exact h
  · intro xs ys x y hx hy
    rw [spans_orElse, hx, hy]
    constructor
    · rintro (⟨p, hp, h⟩ | ⟨p, hp, h⟩)
      · exact ⟨p, List.mem_append_left ys hp, h⟩
      · exact ⟨p, List.mem_append_right xs hp, h⟩
    · rintro ⟨p, hp, h⟩
      rcases List.mem_append.mp hp with hp | hp
      · exact .inl ⟨p, hp, h⟩
      · exact .inr ⟨p, hp, h⟩

theorem Fresh.gather {join : Marking → Marking → Marking} {none : Marking} {ps : List Marking}
    (hps : ∀ p ∈ ps, p.Fresh) (hnone : none.Fresh)
    (hjoin : ∀ p q : Marking, p.Fresh → q.Fresh → (join p q).Fresh) :
    (Marking.gather join none ps).Fresh :=
  gather_induction (motive := fun _ m => m.Fresh) ps hnone hps fun _ _ => hjoin

/-- A part that is idle reads nothing. -/
theorem eq_of_isIdle (h : m.isIdle = true) (hspans : m.spans a b) : a = b := by
  induction m generalizing a b with
  | nothing => exact hspans
  | set r _ => cases h
  | look l => exact hspans.1
  | both p q _ hp hq =>
    obtain ⟨hidle, hidle'⟩ := Bool.and_eq_true_iff.mp h
    obtain ⟨mid, hmid, hb⟩ := hspans
    exact (hp hidle hmid).trans (hq hidle' hb)
  | either p q _ hp hq =>
    obtain ⟨hidle, hidle'⟩ := Bool.and_eq_true_iff.mp h
    exact hspans.elim (hp hidle) (hq hidle')
  | many p hp =>
    induction hspans with
    | refl => rfl
    | tail _ hlast ih => exact ih.trans (hp h hlast)

theorem Fresh.turns (h : p.Fresh) (least : Nat) (most : Option Nat) :
    (p.turns least most).Fresh := by
  unfold Marking.turns
  split_ifs
  · exact fresh_nothing
  · exact h
  · refine (h.times least).andThen ?_
    cases most with
    | none => exact ⟨h.1, h.2⟩
    | some most => exact h.upTo _

private theorem spans_turns_idle (h : p.isIdle = true) (least : Nat) (most : Option Nat) :
    (if least = 0 then nothing else p).spans a b ↔
      ∃ n, least ≤ n ∧ (∀ m ∈ most, n ≤ max least m) ∧ Times p.spans n a b := by
  constructor
  · split_ifs with hleast
    · intro hab
      exact ⟨0, Nat.le_of_eq hleast, fun m _ => Nat.zero_le _, hab⟩
    · intro hab
      obtain rfl := eq_of_isIdle h hab
      exact ⟨least, Nat.le_refl _, fun m _ => Nat.le_max_left _ _, times_self hab least⟩
  · rintro ⟨n, hn, -, hab⟩
    have hstays : ∀ a b, p.spans a b → a = b := fun _ _ => eq_of_isIdle h
    split_ifs with hleast
    · exact eq_of_times hstays hab
    · obtain ⟨n, rfl⟩ := Nat.exists_eq_succ_of_ne_zero (show n ≠ 0 by omega)
      obtain ⟨mid, hmid, hb⟩ := hab
      exact eq_of_times hstays hb ▸ hmid

theorem spans_turns (p : Marking) (least : Nat) (most : Option Nat) :
    (p.turns least most).spans a b ↔
      ∃ n, least ≤ n ∧ (∀ m ∈ most, n ≤ max least m) ∧ Times p.spans n a b := by
  unfold turns
  split
  · rename_i hidle
    exact spans_turns_idle hidle least most
  -- the turns that have to be made come first, and the rest behind them
  have hsplit (rest : Place → Place → Prop) (bound : Nat → Prop)
      (hrest : ∀ c, rest c b ↔ ∃ k, bound (least + k) ∧ Times p.spans k c b) :
      Relation.Comp (Times p.spans least) rest a b ↔
        ∃ n, least ≤ n ∧ bound n ∧ Times p.spans n a b := by
    constructor
    · rintro ⟨c, hac, hcb⟩
      obtain ⟨k, hk, hcb⟩ := (hrest c).mp hcb
      exact ⟨least + k, Nat.le_add_right _ _, hk, by rw [times_add]; exact ⟨c, hac, hcb⟩⟩
    · rintro ⟨n, hleast, hn, hab⟩
      obtain ⟨k, rfl⟩ := Nat.exists_eq_add_of_le hleast
      rw [times_add] at hab
      obtain ⟨c, hac, hcb⟩ := hab
      exact ⟨c, hac, (hrest c).mpr ⟨k, hn, hcb⟩⟩
  rw [spans_andThen, spans_times]
  refine hsplit _ (fun n => ∀ m ∈ most, n ≤ max least m) fun c => ?_
  cases most with
  | none => simpa [spans] using exists_times_iff.symm
  | some most =>
    simp only [Option.mem_some_iff, forall_eq', spans_upTo, TimesUpTo]
    exact exists_congr fun k => and_congr_left' (by omega)

end Marking

namespace Tree

open Marking (Fresh)

mutual

theorem fresh_marking : (t : Tree) → t.marking.Fresh
  | empty => Marking.fresh_nothing
  | set s => Marking.fresh_set s.ranges
  | look _ => ⟨trivial, rfl⟩
  | repeated body least most _ => (fresh_marking body).turns least most
  | group _ body => fresh_marking body
  | concat parts =>
    Fresh.gather (fresh_markingOfEach parts) Marking.fresh_nothing fun _ _ => Fresh.andThen
  | alternate branches =>
    Fresh.gather (fresh_markingOfEach branches) (Marking.fresh_set []) fun _ _ => Fresh.orElse

theorem fresh_markingOfEach : (ts : List Tree) → ∀ m ∈ markingOfEach ts, m.Fresh
  | [] => fun m hm => by cases hm
  | t :: rest => fun m hm => by
    rw [markingOfEach, List.mem_cons] at hm
    rcases hm with rfl | hm
    · exact fresh_marking t
    · exact fresh_markingOfEach rest m hm

end

mutual

/-- The marking of a pattern matches what the pattern does. -/
theorem spans_marking : (t : Tree) → t.marking.spans = t.spans
  | empty => rfl
  | set s => by
    rw [marking, Marking.spans, spans]
    exact congrArg reads (funext fun c => propext (s.has_ranges_iff c))
  | look l => rfl
  | repeated body least most _ => by
    funext a b
    rw [marking, Marking.spans_turns, spans_marking body, spans]
  | group _ body => by rw [marking, spans_marking body, spans]
  | concat parts => by
    rw [marking, Marking.spans_gather_andThen, spansInTurn_markingOfEach, spans]
  | alternate branches => by
    funext a b
    rw [marking, Marking.spans_gather_orElse, spansOneOf_markingOfEach, spans]

theorem spansInTurn_markingOfEach : (ts : List Tree) →
    Marking.spansInTurn (markingOfEach ts) = spansInTurn ts
  | [] => rfl
  | t :: rest => by
    rw [markingOfEach, Marking.spansInTurn, spans_marking t, spansInTurn_markingOfEach rest,
      spansInTurn]

theorem spansOneOf_markingOfEach : (ts : List Tree) → (a b : Place) →
    ((∃ m ∈ markingOfEach ts, m.spans a b) ↔ spansOneOf ts a b)
  | [], _, _ => by simp [markingOfEach, spansOneOf]
  | t :: rest, a, b => by
    rw [spansOneOf, ← spans_marking t, markingOfEach]
    refine Iff.trans ?_ (or_congr_right (spansOneOf_markingOfEach rest a b))
    constructor
    · rintro ⟨m, hm, h⟩
      rcases List.mem_cons.mp hm with rfl | hm
      · exact .inl h
      · exact .inr ⟨m, hm, h⟩
    · rintro (h | ⟨m, hm, h⟩)
      · exact ⟨_, List.mem_cons_self, h⟩
      · exact ⟨m, List.mem_cons_of_mem _ hm, h⟩

end

/-- The search tells whether the pattern matches anywhere in the text. -/
theorem search_marking_iff (t : Tree) (cs : List Char) :
    t.marking.search none cs = true ↔ t.MatchesIn cs := by
  have hfresh := fresh_marking t
  refine (hfresh.1.search_iff ⟨[], cs⟩).trans ?_
  rw [spans_marking t]
  constructor
  · rintro ⟨b, hgo | ⟨a, ha, hab⟩⟩
    · exact absurd hgo hfresh.not_goesOn
    · exact ⟨a, b, ha, hab⟩
  · rintro ⟨a, b, ha, hab⟩
    exact ⟨b, .inr ⟨a, ha, hab⟩⟩

end Tree

namespace Engine

/-- The engine that finds matches by marks is standard. -/
theorem isStandard : PatternEngine.IsStandard where
  compiles_iff source := by
    constructor
    · rintro ⟨m, hm⟩
      obtain ⟨t, ht, hsmall, -⟩ := markingOf_eq_ok_iff.mp hm
      exact ⟨t, ht, hsmall⟩
    · rintro ⟨t, ht, hsmall⟩
      exact ⟨t.marking, markingOf_eq_ok_iff.mpr ⟨t, ht, hsmall, rfl⟩⟩
  isMatch_iff {source m t} hm ht text := by
    obtain ⟨t', ht', -, rfl⟩ := markingOf_eq_ok_iff.mp hm
    obtain rfl : t' = t := Option.some.inj (ht'.symm.trans ht)
    exact t'.search_marking_iff text.toList

end Engine

end FieldGate.Pattern
