import FieldGate.Proofs.StepLookahead

/-! Putting a pattern into a group. The pattern is read as it is alone, and the parenthesis behind
it ends the group, unless an open comment takes it. -/
namespace FieldGate.Pattern

theorem closing_stop : Closing ")$".toList := ⟨"$".toList, rfl, by decide, by decide⟩

theorem closing_parenthesis : Closing ")".toList := ⟨[], rfl, by decide, by decide⟩

theorem Progress.finish?_eq_some_iff {q : Progress} {t : Tree} :
    q.finish? = some t ↔ q.outer = [] ∧ q.level.value = t := by
  unfold finish?
  split_ifs with h
  · simp [List.isEmpty_iff.mp h]
  · simpa using fun hnil _ => h (List.isEmpty_iff.mpr hnil)

section Runs

variable [Dialect] {p q : Progress} {cs ds z : List Char} {t : Tree} {n steps : Nat} {lost : Bool}

theorem run?_succ_congr (h : p.flags.skip cs = p.flags.skip ds) :
    run? (n + 1) p cs = run? (n + 1) p ds := by
  rw [run?, h, run?]

/-- A step that goes through can be split off a run. -/
theorem run?_of_step {c : Char} {more rest : List Char} (hskip : p.flags.skip cs = c :: more)
    (hstep : step? p (c :: more) = some (q, rest)) (n : Nat) :
    run? (n + 1) p cs = run? n q rest := by
  rw [run?, hskip]
  simp only [hstep]

theorem run?_eq_none {c : Char} {more : List Char} (hskip : p.flags.skip cs = c :: more)
    (hstep : step? p (c :: more) = none) (n : Nat) : run? (n + 1) p cs = none := by
  rw [run?, hskip]
  simp only [hstep]

theorem run?_nil (n : Nat) (p : Progress) : run? (n + 1) p [] = p.finish? := by
  rw [run?, Flags.skip_nil]

/-- So many steps take the reading of a pattern to its end. In groups the same steps lead there, and
what is left then is the closing text, if it is not lost. -/
structure Ends (p : Progress) (cs : List Char) (lost : Bool) (steps : Nat) (q : Progress) :
    Prop where
  sign : lost = true → SignInLastLine cs
  bottom : q.bottom = p.bottom
  run : ∀ z, Closing z → ∀ ls n, run? (steps + (n + 1)) (p.inside ls) (cs ++ z) =
    run? (n + 1) (q.inside ls) (remaining lost [] z)

/-- Where only blanks and comments are left the reading is at its end. -/
theorem ends_of_skip_eq_nil (h : p.flags.skip cs = []) : ∃ lost, Ends p cs lost 0 p := by
  obtain ⟨lost, hleaves, happend⟩ := p.flags.skip_closing cs
  rw [h] at hleaves happend
  refine ⟨lost, fun hlost => (hleaves.of_lost hlost).2, rfl, fun z hz ls n => ?_⟩
  rw [Nat.zero_add]
  refine run?_succ_congr ?_
  rw [Progress.inside_flags, happend z hz]
  cases lost with
  | false => exact (p.flags.skip_of_closing hz).symm
  | true => exact p.flags.skip_nil.symm

/-- One step is the same in groups and with a closing text behind the pattern. -/
theorem run?_inside_of_step {c : Char} {more rest : List Char} (hskip : p.flags.skip cs = c :: more)
    (hstep : step? p (c :: more) = some (q, rest)) : ∃ lost, Leaves cs rest lost ∧
      ∀ z, Closing z → ∀ ls n,
        run? (n + 1) (p.inside ls) (cs ++ z) = run? n (q.inside ls) (remaining lost rest z) := by
  obtain ⟨hsuffix, hskip'⟩ := p.flags.skip_eq_cons hskip
  obtain ⟨lost, hleaves, happend⟩ := step?_steady p _ q rest hstep
  refine ⟨lost, hleaves.of_suffix hsuffix, fun z hz ls n => ?_⟩
  have hstep' := step?_inside (happend z hz) ls
  rw [List.cons_append] at hstep'
  exact run?_of_step (p := p.inside ls) (hskip' z) hstep' n

/-- A pattern that can be read comes to an end, where it is the given tree. -/
theorem run?_ends (h : run? n p cs = some t) :
    ∃ lost steps q, steps < n ∧ q.finish? = some t ∧ Ends p cs lost steps q := by
  induction n generalizing p cs with
  | zero => cases h
  | succ n ih =>
    cases hskip : p.flags.skip cs with
    | nil =>
      rw [run?, hskip] at h
      obtain ⟨lost, hends⟩ := ends_of_skip_eq_nil hskip
      exact ⟨lost, 0, p, Nat.succ_pos n, h, hends⟩
    | cons c more =>
      rw [run?, hskip] at h
      simp only [] at h
      split at h
      · rename_i p' rest hstep
        obtain ⟨lost, hleaves, hrun⟩ := run?_inside_of_step hskip hstep
        cases lost with
        | false =>
          obtain ⟨lost, steps, q, hsteps, hfinish, hends⟩ := ih h
          refine ⟨lost, steps + 1, q, Nat.succ_lt_succ hsteps, hfinish,
            fun hlost => (hends.sign hlost).of_suffix hleaves.suffix,
            hends.bottom.trans (step?_bottom hstep), fun z hz ls m => ?_⟩
          rw [Nat.add_right_comm, hrun z hz, remaining_false, hends.run z hz]
        | true =>
          -- the step goes on to the end of the pattern, so the pattern ends after it
          obtain ⟨rfl, hsign⟩ := hleaves.of_lost rfl
          obtain ⟨k, rfl⟩ : ∃ k, n = k + 1 := by
            cases n with
            | zero => cases h
            | succ k => exact ⟨k, rfl⟩
          rw [run?_nil] at h
          refine ⟨true, 1, p', by omega, h, fun _ => hsign, step?_bottom hstep, fun z hz ls m => ?_⟩
          rw [Nat.add_comm, hrun z hz, remaining_true]
      · cases h

def whole (t : Tree) : Tree := .concat [.look .start, .group none t, .look .stop]

def startLevel : Level := { flags := {}, parts := [.look .start] }

theorem run?_opening (n : Nat) (cs : List Char) :
    run? (n + 2) .start ("^(?:".toList ++ cs) = run? n (Progress.start.inside [startLevel]) cs := by
  rfl

theorem run?_stop (hq : q.finish? = some t) (hbottom : q.bottom = some none) (n : Nat) :
    run? (n + 3) (q.inside [startLevel]) ")$".toList = some (whole t) := by
  obtain ⟨houter, rfl⟩ := Progress.finish?_eq_some_iff.mp hq
  have hnumber : q.level.number = none := by
    simpa [Progress.bottom, houter] using hbottom
  have hclose : (q.inside [startLevel]).closeGroup? =
      some { q with level := startLevel.push (.group none q.level.value), outer := [] } := by
    simp [Progress.closeGroup?, Progress.inside, houter, Level.asGroup, hnumber]
  have hstep : step? (q.inside [startLevel]) ")$".toList =
      some ({ q with level := startLevel.push (.group none q.level.value), outer := [] },
        "$".toList) := by
    rw [show ")$".toList = [')', '$'] from rfl, step?, hclose]
    rfl
  exact run?_of_step (Flags.skip_of_closing _ closing_stop) hstep (n + 2)

/-- Outside groups no parenthesis can be closed. -/
theorem run?_unopened (hq : q.finish? = some t) (n : Nat) : run? (n + 1) q ")".toList = none := by
  obtain ⟨houter, -⟩ := Progress.finish?_eq_some_iff.mp hq
  have hstep : step? q ")".toList = none := by
    rw [show ")".toList = [')'] from rfl, step?, Progress.closeGroup?, houter]
    rfl
  exact run?_eq_none (Flags.skip_of_closing _ closing_parenthesis) hstep n

/-- With a parenthesis behind it a pattern cannot be read, unless the parenthesis is lost. -/
theorem parse?_unopened (hfinish : q.finish? = some t) (hsteps : steps ≤ cs.length)
    (hends : Ends .start cs lost steps q) :
    parse? (cs ++ ")".toList) = if lost then some t else none := by
  obtain ⟨k, hk⟩ : ∃ k, (cs ++ ")".toList).length + 1 = steps + (k + 1) :=
    ⟨cs.length + 1 - steps, by simp; omega⟩
  have hrun : run? (steps + (k + 1)) .start (cs ++ ")".toList) =
      run? (k + 1) q (remaining lost [] ")".toList) := by
    simpa using hends.run _ closing_parenthesis [] k
  rw [parse?, hk, hrun]
  cases lost with
  | false =>
    rw [remaining_false, List.nil_append, run?_unopened hfinish]
    rfl
  | true =>
    rw [remaining_true, run?_nil, hfinish]
    rfl

/-- Put into a group a pattern is read as it is alone, unless the parenthesis behind it is lost. -/
theorem parse?_whole (hfinish : q.finish? = some t) (hsteps : steps ≤ cs.length)
    (hends : Ends .start cs lost steps q) :
    parse? ("^(?:".toList ++ cs ++ ")$".toList) = if lost then none else some (whole t) := by
  obtain ⟨k, hk⟩ : ∃ k, ("^(?:".toList ++ cs ++ ")$".toList).length + 1 = steps + (k + 3) + 2 :=
    ⟨cs.length + 2 - steps, by simp; omega⟩
  have hrun := hends.run _ closing_stop [startLevel] (k + 2)
  rw [parse?, hk, List.append_assoc, run?_opening, hrun]
  cases lost with
  | false =>
    rw [remaining_false, List.nil_append, run?_stop hfinish hends.bottom]
    rfl
  | true =>
    have hopen : (q.inside [startLevel]).finish? = none := by
      simp [Progress.finish?, Progress.inside]
    rw [remaining_true, run?_nil, hopen]
    rfl

/-- A pattern that can be read alone, with a parenthesis behind it and in a group. The same
parenthesis is lost in both. -/
theorem parse?_enclosed (h : parse? cs = some t) :
    ∃ lost, (lost = true → SignInLastLine cs) ∧
      parse? (cs ++ ")".toList) = (if lost then some t else none) ∧
      parse? ("^(?:".toList ++ cs ++ ")$".toList) = if lost then none else some (whole t) := by
  obtain ⟨lost, steps, q, hsteps, hfinish, hends⟩ := run?_ends h
  have hsteps : steps ≤ cs.length := Nat.le_of_lt_succ hsteps
  exact ⟨lost, hends.sign, parse?_unopened hfinish hsteps hends,
    parse?_whole hfinish hsteps hends⟩

end Runs

end FieldGate.Pattern
