import FieldGate.Proofs.Checking
import FieldGate.Proofs.Verdict

/-! Checks that end early. What a check asks is enough for its verdict: questions that it does not
come to have no part in it, and of a group of questions it asks the fewest that force the
verdict. -/
namespace FieldGate

namespace Quantifier

variable {α : Type} {q : Quantifier} {found b verdict : Bool} {seen : List Bool} {left : Nat}

private theorem countP_eq_one_iff {p : α → Bool} {xs : List α} :
    xs.countP p = 1 ↔ Once (fun x => p x = true) xs := by
  induction xs with
  | nil => simp [not_once_nil]
  | cons x xs ih => cases hx : p x <;> simp [once_cons, hx, ih]

/-- The counting rule is what a quantifier says about members. -/
theorem counts_countP_iff {p : α → Bool} {xs : List α} :
    q.counts (xs.countP p) xs.length = true ↔ q.Over (fun x => p x = true) xs := by
  cases q with
  | all => simp [counts, Over, List.countP_eq_length]
  | any => simp [counts, Over, List.countP_pos_iff]
  | none => simp [counts, Over, List.countP_eq_zero]
  | one => simp only [counts, Over, beq_iff_eq, countP_eq_one_iff]

/-- Counting verdicts by the rule of a quantifier is saying it of them. -/
theorem counts_count_iff {verdicts : List Bool} :
    q.counts (verdicts.count true) verdicts.length = true ↔ q.Over (· = true) verdicts := by
  simpa only [List.count, beq_true] using counts_countP_iff (q := q) (p := (· == true))

/-- The verdicts of some members force that of the group if the counting rule gives the same,
whatever the verdicts of the members that are left. -/
def Forces (q : Quantifier) (seen : List Bool) (left : Nat) : Prop :=
  ∃ verdict, ∀ rest : List Bool, rest.length = left →
    q.counts ((seen ++ rest).count true) (seen ++ rest).length = verdict

theorem forces_whole (q : Quantifier) (seen : List Bool) : q.Forces seen 0 := by
  refine ⟨q.counts (seen.count true) seen.length, fun rest hrest => ?_⟩
  rw [List.length_eq_zero_iff.mp hrest, List.append_nil]

/-- The members seen leave the verdict to those after them. -/
def Undecided (q : Quantifier) (seen : List Bool) (found : Bool) : Prop :=
  ∀ rest : List Bool, q.Over (· = true) (seen ++ rest) ↔ q.OverRest found (· = true) rest

theorem undecided_nil (q : Quantifier) : q.Undecided [] false := fun _ => overRest_false.symm

theorem Undecided.concat (h : q.Undecided seen found)
    (hs : q.settled? found b = Option.none) : q.Undecided (seen ++ [b]) (found || b) := by
  intro rest
  rw [List.append_assoc, List.singleton_append, h]
  exact overRest_cons Iff.rfl hs

theorem Undecided.forces (h : q.Undecided seen found) (hs : q.settled? found b = some verdict)
    (left : Nat) : q.Forces (seen ++ [b]) left := by
  refine ⟨verdict, fun rest _ => Bool.eq_iff_iff.mpr ?_⟩
  rw [counts_count_iff, List.append_assoc, List.singleton_append, h]
  exact (settled_iff (P := (· = true)) Iff.rfl hs).symm

private theorem exists_overRest (q : Quantifier) (found : Bool) (left : Nat) :
    (∃ rest : List Bool, rest.length = left + 1 ∧ q.OverRest found (· = true) rest) ∧
      ∃ rest : List Bool, rest.length = left + 1 ∧ ¬ q.OverRest found (· = true) rest := by
  have hsame (b : Bool) : (List.replicate (left + 1) b).length = left + 1 := List.length_replicate
  cases q with
  | all =>
    exact ⟨⟨_, hsame true, by simp [OverRest, Over]⟩, _, hsame false, by simp [OverRest, Over]⟩
  | any =>
    exact ⟨⟨_, hsame true, by simp [OverRest, Over]⟩, _, hsame false, by simp [OverRest, Over]⟩
  | none =>
    exact ⟨⟨_, hsame false, by simp [OverRest, Over]⟩, _, hsame true, by simp [OverRest, Over]⟩
  | one =>
    cases found with
    | true => exact ⟨⟨_, hsame false, by simp [OverRest]⟩, _, hsame true, by simp [OverRest]⟩
    | false =>
      refine ⟨⟨true :: List.replicate left false, by simp, ?_⟩, _, hsame false, ?_⟩
      · simp [OverRest, once_cons]
      · intro honce
        obtain ⟨before, x, after, heq, hx, -⟩ := honce
        have hmem : x ∈ List.replicate (left + 1) false := by simp [heq]
        rw [List.eq_of_mem_replicate hmem] at hx
        cases hx

theorem Undecided.not_forces (h : q.Undecided seen found) (left : Nat) :
    ¬ q.Forces seen (left + 1) := by
  intro hforces
  obtain ⟨verdict, hverdict⟩ := hforces
  obtain ⟨⟨rest, hrest, hover⟩, rest', hrest', hover'⟩ := exists_overRest q found left
  have htrue := counts_count_iff.mpr ((h rest).mpr hover)
  have hfalse := mt (fun hc => (h rest').mp (counts_count_iff.mp hc)) hover'
  rw [hverdict rest hrest] at htrue
  exact hfalse ((hverdict rest' hrest').trans htrue)

/-- Members, taken from the left after those seen, that force the verdict of the group, and no fewer
would do. -/
structure Fewest (q : Quantifier) (seen : List Bool) (verdict : α → Bool)
    (members asked : List α) : Prop where
  forces : ∃ rest, members = asked ++ rest ∧ q.Forces (seen ++ asked.map verdict) rest.length
  least : ∀ before after, members = before ++ after →
    q.Forces (seen ++ before.map verdict) after.length → asked.length ≤ before.length

theorem fewest_nil (q : Quantifier) (seen : List Bool) (verdict : α → Bool) :
    q.Fewest seen verdict [] [] :=
  ⟨⟨[], rfl, forces_whole q _⟩, fun before _ _ _ => Nat.zero_le before.length⟩

section Member

variable {v : α → Bool} {a : α} {members asked : List α}

private theorem Undecided.length_pos (h : q.Undecided seen found) {before after : List α}
    (heq : a :: members = before ++ after)
    (hforces : q.Forces (seen ++ before.map v) after.length) : 1 ≤ before.length := by
  cases before with
  | nil =>
    rw [List.map_nil, List.append_nil, ← List.nil_append after, ← heq] at hforces
    exact absurd hforces (h.not_forces members.length)
  | cons => simp

theorem Undecided.fewest_singleton (h : q.Undecided seen found)
    (hs : q.settled? found (v a) = some verdict) : q.Fewest seen v (a :: members) [a] where
  forces := ⟨members, rfl, h.forces hs members.length⟩
  least _ _ heq hforces := h.length_pos heq hforces

theorem Undecided.fewest_cons (h : q.Undecided seen found)
    (hf : q.Fewest (seen ++ [v a]) v members asked) :
    q.Fewest seen v (a :: members) (a :: asked) := by
  obtain ⟨⟨rest, hsplit, hforces⟩, hleast⟩ := hf
  refine ⟨⟨rest, by rw [hsplit, List.cons_append], by simpa using hforces⟩, ?_⟩
  intro before after heq hforces'
  cases before with
  | nil => exact absurd (h.length_pos heq hforces') (by simp)
  | cons b before =>
    obtain ⟨rfl, hmembers⟩ := List.cons.inj heq
    exact Nat.succ_le_succ (hleast before after hmembers (by simpa using hforces'))

end Member

end Quantifier

/-- A check stops at the first question that fails, with its error. -/
inductive Checked.Stops {ε α : Type} (answer : α → Except ε Bool) : Checked ε α → Prop
  | verdict {b : Bool} {asked : List α} (h : ∀ a ∈ asked, ∃ b, answer a = .ok b) :
      Stops answer ⟨.ok b, asked⟩
  | error {e : ε} {before : List α} {a : α} (h : ∀ a ∈ before, ∃ b, answer a = .ok b)
      (ha : answer a = .error e) : Stops answer ⟨.error e, before ++ [a]⟩

/-- Questions are asked in their order, none of them twice, up to the first that fails. -/
structure Checked.Follows {ε α : Type} (answer : α → Except ε Bool) (questions : List α)
    (c : Checked ε α) : Prop where
  sublist : c.asked.Sublist questions
  stops : c.Stops answer

namespace Checked

variable {ε α : Type} {answer : α → Except ε Bool} {c : Checked ε α} {next : Bool → Checked ε α}
  {as as' : List α}

theorem stops_settled (b : Bool) : (settled b : Checked ε α).Stops answer := .verdict (by simp)

/-- A question that fails is the last one that is asked, and its error is that of the check. -/
theorem Stops.ends_at {a : α} {e : ε} (h : c.Stops answer) (ha : a ∈ c.asked)
    (he : answer a = .error e) :
    c.outcome = .error e ∧
      ∃ before, c.asked = before ++ [a] ∧ ∀ b ∈ before, ∃ v, answer b = .ok v := by
  have hnot {as : List α} (has : ∀ b ∈ as, ∃ v, answer b = .ok v) : a ∉ as := by
    intro hmem
    obtain ⟨v, hv⟩ := has a hmem
    cases he.symm.trans hv
  cases h with
  | verdict hasked => exact absurd ha (hnot hasked)
  | @error e' before a' hbefore ha' =>
    rcases List.mem_append.mp ha with hmem | hlast
    · exact absurd hmem (hnot hbefore)
    · obtain rfl := List.mem_singleton.mp hlast
      cases he.symm.trans ha'
      exact ⟨rfl, before, rfl, hbefore⟩

/-- The error of a run is the answer to a question that it asked. -/
theorem Stops.exists_mem_of_error {e : ε} (h : c.Stops answer) (he : c.outcome = .error e) :
    ∃ a ∈ c.asked, answer a = .error e := by
  cases h with
  | verdict => cases he
  | error _ ha =>
    cases he
    exact ⟨_, List.mem_append_right _ (List.mem_singleton_self _), ha⟩

theorem Stops.andThen (hc : c.Stops answer) (h : ∀ b, (next b).Stops answer) :
    (c.andThen next).Stops answer := by
  cases hc with
  | error hbefore ha => exact .error hbefore ha
  | @verdict b asked hasked =>
    rw [andThen_of_ok rfl]
    cases hnext : next b with
    | mk outcome asked' =>
      have hstops := h b
      rw [hnext] at hstops
      cases hstops with
      | verdict hasked' => exact .verdict (List.forall_mem_append.mpr ⟨hasked, hasked'⟩)
      | error hbefore ha =>
        rw [← List.append_assoc]
        exact .error (List.forall_mem_append.mpr ⟨hasked, hbefore⟩) ha

theorem follows_settled (b : Bool) (as : List α) : (settled b : Checked ε α).Follows answer as :=
  ⟨List.nil_sublist as, stops_settled b⟩

theorem Follows.andThen (hc : c.Follows answer as) (h : ∀ b, (next b).Follows answer as') :
    (c.andThen next).Follows answer (as ++ as') := by
  refine ⟨?_, hc.stops.andThen fun b => (h b).stops⟩
  cases hout : c.outcome with
  | error e =>
    rw [andThen_of_error hout]
    exact hc.sublist.trans (List.sublist_append_left as as')
  | ok b =>
    rw [andThen_of_ok hout]
    exact hc.sublist.append (h b).sublist

theorem mem_andThen_of_mem {a : α} (h : a ∈ c.asked) : a ∈ (c.andThen next).asked := by
  cases hout : c.outcome with
  | error e => rwa [andThen_of_error hout]
  | ok b =>
    rw [andThen_of_ok hout]
    exact List.mem_append_left _ h

end Checked

namespace Requirement

variable {ε α : Type} {answer answer' : α → Except ε Bool} {q : Quantifier} {found : Bool}
  {r : Requirement α} {rs : List (Requirement α)}

mutual

def questions : Requirement α → List α
  | leaf a => [a]
  | group _ rs => questionsEach rs

def questionsEach : List (Requirement α) → List α
  | [] => []
  | r :: rs => questions r ++ questionsEach rs

end

private theorem follows_checkEach
    (h : ∀ r ∈ rs, (check answer r).Follows answer r.questions) (found : Bool) :
    (checkEach answer q found rs).Follows answer (questionsEach rs) := by
  induction rs generalizing found with
  | nil =>
    rw [checkEach_nil]
    exact Checked.follows_settled _ _
  | cons r rs ih =>
    obtain ⟨hr, hrs⟩ := List.forall_mem_cons.mp h
    rw [checkEach_cons]
    refine hr.andThen fun b => ?_
    cases hs : q.settled? found b with
    | some verdict =>
      rw [proceed_of_settled hs]
      exact Checked.follows_settled _ _
    | none =>
      rw [proceed_of_open hs]
      exact ih hrs _

theorem follows_check (answer : α → Except ε Bool) (r : Requirement α) :
    (check answer r).Follows answer r.questions := by
  induction r with
  | leaf a =>
    refine ⟨List.Sublist.refl [a], ?_⟩
    cases ha : answer a with
    | error e =>
      rw [check, ha, ← List.nil_append [a]]
      exact .error (List.forall_mem_nil _) ha
    | ok b =>
      rw [check, ha]
      exact .verdict (by simp [ha])
  | group q rs ih => exact follows_checkEach ih false

private theorem checkEach_of_agrees
    (ih : ∀ r ∈ rs, (∀ a ∈ (check answer r).asked, answer' a = answer a) →
      check answer' r = check answer r)
    (h : ∀ a ∈ (checkEach answer q found rs).asked, answer' a = answer a) :
    checkEach answer' q found rs = checkEach answer q found rs := by
  induction rs generalizing found with
  | nil => rfl
  | cons r rs ihs =>
    obtain ⟨hr, hrs⟩ := List.forall_mem_cons.mp ih
    rw [checkEach_cons] at h
    have hcheck := hr fun a ha => h a (Checked.mem_andThen_of_mem ha)
    rw [checkEach_cons, checkEach_cons, hcheck]
    cases hout : (check answer r).outcome with
    | error e => rw [Checked.andThen_of_error hout, Checked.andThen_of_error hout]
    | ok b =>
      rw [Checked.andThen_of_ok hout] at h
      have hproceed : proceed answer' q found rs b = proceed answer q found rs b := by
        cases hs : q.settled? found b with
        | some verdict => rw [proceed_of_settled hs, proceed_of_settled hs]
        | none =>
          rw [proceed_of_open hs] at h
          rw [proceed_of_open hs, proceed_of_open hs]
          exact ihs hrs fun a ha => h a (List.mem_append_right _ ha)
      rw [Checked.andThen_of_ok hout, Checked.andThen_of_ok hout, hproceed]

/-- Answers to questions that are not asked have no part in a check. -/
theorem check_of_agrees (h : ∀ a ∈ (check answer r).asked, answer' a = answer a) :
    check answer' r = check answer r := by
  induction r with
  | leaf a => rw [check, check, h a (List.mem_singleton_self a)]
  | group q rs ih => exact checkEach_of_agrees ih h

theorem holding_eq_countP (verdict : α → Bool) (rs : List (Requirement α)) :
    holding verdict rs = rs.countP (meaning verdict) := by
  induction rs with
  | nil => rfl
  | cons r rs ih => rw [holding, ih, List.countP_cons, Nat.add_comm]

/-- Where every question has an answer, the check says what the requirement means. -/
theorem decides_meaning (verdict : α → Bool) (r : Requirement α) :
    Decides (fun a => (.ok (verdict a) : Except ε Bool)) r (meaning verdict r = true) := by
  induction r with
  | leaf a => exact ⟨_, rfl, Iff.rfl⟩
  | group q rs ih =>
    rw [meaning, holding_eq_countP, Quantifier.counts_countP_iff]
    exact decides_group (List.forall₂_same.mpr ih)

/-- A verdict is what the requirement means, whatever the answers to questions that are not
asked. -/
theorem eq_meaning_of_check {b : Bool} {verdict : α → Bool}
    (hb : (check answer r).outcome = .ok b)
    (h : ∀ a ∈ (check answer r).asked, answer a = .ok (verdict a)) : b = meaning verdict r := by
  have hdecides :
      Decides (fun a => (.ok (verdict a) : Except ε Bool)) r (meaning verdict r = true) :=
    decides_meaning verdict r
  obtain ⟨b', hb', hiff⟩ := hdecides
  rw [check_of_agrees fun a ha => (h a ha).symm, hb] at hb'
  cases hb'
  exact Bool.eq_iff_iff.mpr hiff

private theorem fewest_checkEach {members : List α} {verdict : α → Bool} {seen : List Bool}
    (hv : ∀ a ∈ members, answer a = .ok (verdict a)) (h : q.Undecided seen found) :
    q.Fewest seen verdict members (checkEach answer q found (members.map leaf)).asked := by
  -- the members seen so far leave the verdict open, and so does each one that is passed
  induction members generalizing seen found with
  | nil => exact Quantifier.fewest_nil q seen verdict
  | cons a members ih =>
    obtain ⟨ha, hmembers⟩ := List.forall_mem_cons.mp hv
    have hcheck : (check answer (leaf a)).outcome = .ok (verdict a) := ha
    rw [List.map_cons, checkEach_cons, Checked.andThen_of_ok hcheck]
    cases hs : q.settled? found (verdict a) with
    | some v =>
      rw [proceed_of_settled hs]
      exact h.fewest_singleton hs
    | none =>
      rw [proceed_of_open hs]
      exact h.fewest_cons (ih hmembers (h.concat hs))

/-- A check asks its questions from left to right and none of them twice. It ends with the first
that fails, and with its error. Answers to questions that are not asked have no part in it, so that
a verdict is what the requirement means for all of them. And of a group of questions that have
answers it asks the fewest that force the verdict. Each leaf may have a question, and so an answer,
of its own. -/
theorem check_asks_enough (answer : α → Except ε Bool) (r : Requirement α) :
    (check answer r).asked.Sublist r.questions ∧
    (∀ a ∈ (check answer r).asked, ∀ e, answer a = .error e →
      (check answer r).outcome = .error e ∧
        ∃ before, (check answer r).asked = before ++ [a] ∧ ∀ b ∈ before, ∃ v, answer b = .ok v) ∧
    (∀ e, (check answer r).outcome = .error e → ∃ a ∈ (check answer r).asked, answer a = .error e) ∧
    (∀ answer', (∀ a ∈ (check answer r).asked, answer' a = answer a) →
      check answer' r = check answer r) ∧
    (∀ b, (check answer r).outcome = .ok b → ∀ verdict : α → Bool,
      (∀ a ∈ (check answer r).asked, answer a = .ok (verdict a)) → b = meaning verdict r) ∧
    ∀ q members (verdict : α → Bool), r = group q (members.map leaf) →
      (∀ a ∈ members, answer a = .ok (verdict a)) →
      q.Fewest [] verdict members (check answer r).asked := by
  obtain ⟨hsublist, hstops⟩ := follows_check answer r
  refine ⟨hsublist, ?_, ?_, ?_, ?_, ?_⟩
  · intro a ha e he
    exact hstops.ends_at ha he
  · intro e he
    exact hstops.exists_mem_of_error he
  · intro answer' h
    exact check_of_agrees h
  · intro b hb verdict h
    exact eq_meaning_of_check hb h
  · rintro q members verdict rfl hv
    exact fewest_checkEach hv (Quantifier.undecided_nil q)

/-- Of three lamps exactly one has to be on. When the first two are, the third is not looked at and
may as well fail; when the second one fails, its error is that of the check. -/
theorem third_lamp_not_asked :
    let r : Requirement Nat := group .one ([0, 1, 2].map leaf)
    let failing (lamp : Nat) (a : Nat) : Except String Bool :=
      if a = lamp then .error "dark" else .ok true
    check (failing 2) r = ⟨.ok false, [0, 1]⟩ ∧ meaning (fun _ => true) r = false ∧
      Quantifier.one.Fewest [] (fun _ => true) [0, 1, 2] [0, 1] ∧
      (check (failing 1) r).outcome = .error "dark" := by
  intro r failing
  have hrun : check (fun _ => (.ok true : Except String Bool)) r = ⟨.ok false, [0, 1]⟩ := rfl
  obtain ⟨-, -, -, hagrees, hmeaning, hfewest⟩ :=
    check_asks_enough (fun _ => (.ok true : Except String Bool)) r
  refine ⟨(hagrees (failing 2) ?_).trans hrun, (hmeaning false rfl (fun _ => true) ?_).symm,
    hfewest .one [0, 1, 2] (fun _ => true) rfl ?_, ?_⟩
  · rw [hrun]
    simp [failing]
  · simp
  · simp
  · exact ((check_asks_enough (failing 1) r).2.1 1 (by decide) "dark" rfl).1

end Requirement

end FieldGate
