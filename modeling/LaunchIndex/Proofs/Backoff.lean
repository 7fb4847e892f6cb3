import Mathlib.Algebra.Order.BigOperators.Group.List
import LaunchIndex.Proofs.Opening
import LaunchIndex.Proofs.Rounding

/-! Pauses that back off. The pause before a retry starts at the first bound of the policy, is
twice as long each time and stays at the cap once it has reached it. Opening pauses between its
attempts only, so all its pauses together are bounded by the cap and the number of attempts. -/

namespace LaunchIndex

namespace Policy

variable {p : Policy}

theorem rounds_eq_ok {n : Nat} (h : p.rounds = .ok n) : n = p.attempts.toNat := by
  unfold rounds at h
  split at h
  · exact (Except.ok.inj h).symm
  · exact (Except.ok.inj h).symm
  · exact absurd h (by simp)
  · exact absurd h (by simp)

/-! ### The pauses of a policy -/

theorem delay_eq (p : Policy) (i : Int) : p.delay i = min (p.initial * 2 ^ i.toNat) p.cap := by
  rw [delay, Int.shiftLeft_eq]

theorem cap_nonneg (p : Policy) : 0 ≤ p.cap := p.initial_nonneg.trans p.initial_le_cap

theorem initial_le_delay (p : Policy) (i : Int) : p.initial ≤ p.delay i := by
  rw [delay_eq]
  refine le_min ?_ p.initial_le_cap
  exact le_mul_of_one_le_right p.initial_nonneg (one_le_pow₀ one_le_two)

theorem delay_le_cap (p : Policy) (i : Int) : p.delay i ≤ p.cap := min_le_right _ _

theorem delay_of_nonpos (p : Policy) {i : Int} (h : i ≤ 0) : p.delay i = p.initial := by
  rw [delay_eq, Int.toNat_of_nonpos h, pow_zero, mul_one, min_eq_left p.initial_le_cap]

/-- The pause doubles and is cut off; that it was cut off before makes no difference. -/
theorem delay_succ (p : Policy) {i : Int} (h : 0 ≤ i) :
    p.delay (i + 1) = min (2 * p.delay i) p.cap := by
  have hcap := p.cap_nonneg
  have hnext : (i + 1).toNat = i.toNat + 1 := by omega
  rw [delay_eq, delay_eq, hnext, pow_succ, ← mul_assoc]
  omega

theorem delay_le_delay (p : Policy) {i j : Int} (hij : i ≤ j) : p.delay i ≤ p.delay j := by
  rw [delay_eq, delay_eq]
  refine min_le_min_right _ (mul_le_mul_of_nonneg_left ?_ p.initial_nonneg)
  exact pow_le_pow_right₀ one_le_two (Int.toNat_le_toNat hij)

/-- Pauses that are not zero have reached the cap by the retry whose number is the cap. -/
theorem delay_eq_cap (h : 0 < p.initial) {i : Int} (hi : p.cap ≤ i) : p.delay i = p.cap := by
  rw [delay_eq]
  refine min_eq_right ?_
  have hpow : (i.toNat : Int) < 2 ^ i.toNat := by exact_mod_cast Nat.lt_two_pow_self
  calc p.cap ≤ i.toNat := hi.trans (Int.self_le_toNat i)
    _ ≤ 2 ^ i.toNat := hpow.le
    _ ≤ p.initial * 2 ^ i.toNat := le_mul_of_one_le_left (by positivity) h

theorem delayBefore_int (p : Policy) (i : Int) :
    p.delayBefore (.int i) = .ok (.int (p.delay i)) := by
  have hpositive : Value.isPositive (.int i) = .ok (decide (0 < i)) := rfl
  unfold delayBefore
  by_cases h : 0 < i
  · rw [hpositive, decide_eq_true h]
    rfl
  · have hzero : p.delay 0 = p.delay i := by
      rw [p.delay_of_nonpos le_rfl, p.delay_of_nonpos (not_lt.mp h)]
    rw [hpositive, decide_eq_false h, ← hzero]
    rfl

/-! ### Pauses in seconds -/

variable {retry : Nat} {x y : Binary64}

theorem seconds_eq (hx : Binary64.ofInt? (p.delay retry) = some x) :
    p.seconds retry = x.divNat 1000 := by
  rw [seconds, hx]
  rfl

theorem represents_delay (hx : Binary64.ofInt? (p.delay retry) = some x) :
    x.Represents (p.delay retry : Int) :=
  Binary64.represents_of_ofInt? (p.initial_nonneg.trans (p.initial_le_delay retry)) hx

theorem isFinite_seconds (hx : Binary64.ofInt? (p.delay retry) = some x) :
    (p.seconds retry).isFinite = true := by
  rw [seconds_eq hx]
  exact ((represents_delay hx).divNat (by decide)).finite

/-- Rounding keeps the order, so no pause is longer than one of the length of the cap. -/
theorem toRat_seconds_le (hx : Binary64.ofInt? (p.delay retry) = some x)
    (hy : Binary64.ofInt? p.cap = some y) : (p.seconds retry).toRat ≤ (y.divNat 1000).toRat := by
  have hdelay := represents_delay hx
  have hcap := Binary64.represents_of_ofInt? p.cap_nonneg hy
  have hle : x.toRat ≤ y.toRat := by
    refine hdelay.toRat_le hcap ?_
    exact_mod_cast p.delay_le_cap retry
  rw [seconds_eq hx]
  refine (hdelay.divNat (by decide)).toRat_le (hcap.divNat (by decide)) ?_
  gcongr

end Policy

/-! ### The pauses of an opening -/

theorem sum_range_map_le {α : Type} [Ring α] [LinearOrder α] [IsStrictOrderedRing α] {f : Nat → α}
    {bound : α} {k : Nat} {n : Int} (hf : ∀ j < k, f j ≤ bound) (hbound : 0 ≤ bound)
    (hk : (k : Int) ≤ n) : ((List.range k).map f).sum ≤ n * bound := by
  have hsum := List.sum_le_card_nsmul ((List.range k).map f) bound (by
    intro a ha
    obtain ⟨j, hj, rfl⟩ := List.mem_map.mp ha
    exact hf j (List.mem_range.mp hj))
  rw [List.length_map, List.length_range, nsmul_eq_mul] at hsum
  refine hsum.trans (mul_le_mul_of_nonneg_right ?_ hbound)
  exact_mod_cast hk

namespace Connection

/-- An attempt is the last that is made, or it is followed by a pause and the attempts left. -/
theorem exec_attempts_cases (path : Text) (p : Policy) (last : Option StoreError) (n left : Nat)
    (s : Site) :
    (Task.exec (attempts path p last (n + 1) (left + 1)) s).2.world.tally = s.tallied p n 0 ∨
      ∃ e, 0 < left ∧ (Binary64.ofInt? (p.delay n)).isSome ∧
        Task.exec (attempts path p last (n + 1) (left + 1)) s =
          Task.exec (attempts path p (some e) (n + 2) left) (s.afterBusy p n) := by
  have htally := s.trial_tallied p n
  have hlogged (e : Event) : (s.trial.2.mapWorld (World.log e)).world.tally = s.tallied p n 0 :=
    (World.tally_log _ _).trans htally
  rcases ht : s.trial.1 with fault | h
  · cases fault with
    | store e =>
      rcases hb : e.isTransient with fault | busy
      · rw [exec_attempts_succ, ht]
        simp only [hb]
        exact .inl htally
      · cases busy with
        | false =>
          rw [exec_attempts_fatal ht hb]
          exact .inl (hlogged _)
        | true =>
          cases left with
          | zero =>
            rw [exec_attempts_last ht hb]
            exact .inl ((World.tally_log _ _).trans (hlogged _))
          | succ left =>
            rcases hd : Binary64.ofInt? (p.delay n) with _ | ms
            · rw [exec_attempts_succ, ht]
              simp only [hb, Nat.succ_pos, ↓reduceIte, Task.exec_bind, exec_pause_none hd]
              exact .inl (hlogged _)
            · have hsome : (Binary64.ofInt? (p.delay n)).isSome := by rw [hd]; rfl
              exact .inr ⟨e, left.succ_pos, rfl, exec_attempts_busy ht hb hsome⟩
    | _ =>
      rw [exec_attempts_foreign ht nofun]
      exact .inl htally
  · rw [exec_attempts_ok ht]
    exact .inl (hlogged _)

/-- Attempts pause between one another and not after the last that is made, whatever they meet. -/
theorem exists_tallied_attempts (path : Text) (p : Policy) (last : Option StoreError)
    (n left : Nat) (s : Site) :
    ∃ k ≤ left, (∀ j < k, (Binary64.ofInt? (p.delay (n + j : Nat))).isSome) ∧
      (Task.exec (attempts path p last (n + 1) (left + 1)) s).2.world.tally = s.tallied p n k := by
  induction left generalizing n s last with
  | zero =>
    rcases exec_attempts_cases path p last n 0 s with htally | ⟨e, hleft, -⟩
    · exact ⟨0, le_rfl, fun j hj => absurd hj j.not_lt_zero, htally⟩
    · exact absurd hleft (lt_irrefl 0)
  | succ left ih =>
    rcases exec_attempts_cases path p last n (left + 1) s with htally | ⟨e, -, hd, hstep⟩
    · exact ⟨0, Nat.zero_le _, fun j hj => absurd hj j.not_lt_zero, htally⟩
    · obtain ⟨k, hk, hdelays, htally⟩ := ih (some e) (n + 1) (s.afterBusy p n)
      refine ⟨k + 1, Nat.succ_le_succ hk, fun j hj => ?_, ?_⟩
      · cases j with
        | zero => exact hd
        | succ j =>
          have hshift : n + (j + 1) = n + 1 + j := by omega
          rw [hshift]
          exact hdelays j (Nat.lt_of_succ_lt_succ hj)
      · rw [hstep, htally, Site.tallied_afterBusy]

/-- What opening adds to a tally: no more attempts than the policy allows, and after each but the
last a pause, none of which is too long to be made. -/
structure Paced (p : Policy) (m : Nat) (before after : Tally) : Prop where
  le_attempts : (m : Int) ≤ p.attempts
  delays : ∀ j < m - 1, (Binary64.ofInt? (p.delay j)).isSome
  tally : after = ⟨before.attempts + m, before.pauses ++ (List.range (m - 1)).map p.seconds⟩

theorem Paced.zero (p : Policy) (tally : Tally) : Paced p 0 tally tally where
  le_attempts := by
    have hattempts := p.one_le_attempts
    omega
  delays j hj := absurd hj j.not_lt_zero
  tally := by simp

theorem paced_establishUnlocked (s : Site) :
    ∃ m, Paced s.connection.policy m s.world.tally
      (Task.exec establishUnlocked s).2.world.tally := by
  have hzero := Paced.zero s.connection.policy s.world.tally
  simp only [establishUnlocked, Task.exec_bind, Task.exec_lift, Routine.run_look]
  by_cases hdestroyed : s.connection.destroyed = true
  · rw [if_pos hdestroyed]
    exact ⟨0, hzero⟩
  · by_cases hconnected : s.connection.isConnected = true
    · rw [if_neg hdestroyed, if_pos hconnected]
      exact ⟨0, hzero⟩
    · rw [if_neg hdestroyed, if_neg hconnected, Task.exec_bind, Task.exec_mk, Routine.run_pure]
      rcases hrounds : s.connection.policy.rounds with fault | rounds
      · exact ⟨0, hzero⟩
      · have hattempts := s.connection.policy.one_le_attempts
        have hbound := Policy.rounds_eq_ok hrounds
        obtain ⟨left, rfl⟩ : ∃ left, rounds = left + 1 := ⟨rounds - 1, by omega⟩
        obtain ⟨k, hk, hdelays, htally⟩ :=
          exists_tallied_attempts s.connection.path s.connection.policy none 0 left s
        simp only [Nat.zero_add, Site.tallied] at hdelays htally
        exact ⟨k + 1, by omega, hdelays, htally⟩

theorem paced_establish (s : Site) :
    ∃ m, Paced s.connection.policy m s.world.tally (Task.exec establish s).2.world.tally := by
  rw [establish, Task.exec_locked]
  exact paced_establishUnlocked (s.withLock s.connection.lock.take.2)

/-- The pauses of a policy double up to the cap and stay there, and opening with that policy makes
one of them after each attempt but the last. In milliseconds they are together no more than the
cap for each attempt but one, and in seconds no more than as many pauses of the length of the
cap. -/
theorem backoff_bounded {attempts initial cap : Value} {p : Policy}
    (h : Policy.of attempts initial cap = .ok p) :
    ∃ N I M : Int,
      attempts.toInteger = .ok N ∧ initial.toInteger = .ok I ∧ cap.toInteger = .ok M ∧
      (∀ i : Int, p.delayBefore (.int i) = .ok (.int (p.delay i)) ∧
        I ≤ p.delay i ∧ p.delay i ≤ M) ∧
      (∀ i ≤ 0, p.delay i = I) ∧
      (∀ i ≥ 0, p.delay (i + 1) = min (2 * p.delay i) M) ∧
      (∀ i j, i ≤ j → p.delay i ≤ p.delay j) ∧
      (0 < I → ∃ n, ∀ i ≥ n, p.delay i = M) ∧
      ∀ s : Site, s.connection.policy = p →
        ∃ m : Nat, (m : Int) ≤ N ∧
          (Task.exec establish s).2.world.tally =
            ⟨s.world.tally.attempts + m,
              s.world.tally.pauses ++ (List.range (m - 1)).map p.seconds⟩ ∧
          ((List.range (m - 1)).map fun j : Nat => p.delay j).sum ≤ (N - 1) * M ∧
          (∀ j < m - 1, ∃ x, Binary64.ofInt? (p.delay j) = some x ∧
            p.seconds j = x.divNat 1000 ∧ (p.seconds j).isFinite = true) ∧
          ∀ y, Binary64.ofInt? M = some y →
            ((List.range (m - 1)).map fun j => (p.seconds j).toRat).sum ≤
              (N - 1 : Int) * (y.divNat 1000).toRat := by
  obtain ⟨-, hattempts, hinitial, hcap⟩ := Policy.of_eq_ok h
  refine ⟨p.attempts, p.initial, p.cap, hattempts, hinitial, hcap,
    fun i => ⟨p.delayBefore_int i, p.initial_le_delay i, p.delay_le_cap i⟩,
    fun i => p.delay_of_nonpos, fun i => p.delay_succ, fun i j => p.delay_le_delay,
    fun hpositive => ⟨p.cap, fun i => Policy.delay_eq_cap hpositive⟩, ?_⟩
  rintro s rfl
  obtain ⟨m, hm, hdelays, htally⟩ := paced_establish s
  have hpauses : ((m - 1 : Nat) : Int) ≤ s.connection.policy.attempts - 1 := by
    have hleast := s.connection.policy.one_le_attempts
    omega
  refine ⟨m, hm, htally, ?_, fun j hj => ?_, fun y hy => ?_⟩
  · exact sum_range_map_le (fun j _ => Policy.delay_le_cap _ j) (Policy.cap_nonneg _) hpauses
  · obtain ⟨x, hx⟩ := Option.isSome_iff_exists.mp (hdelays j hj)
    exact ⟨x, hx, Policy.seconds_eq hx, Policy.isFinite_seconds hx⟩
  · have hlongest := (Binary64.represents_of_ofInt? (Policy.cap_nonneg _) hy).divNat
      (by decide : 2 ≤ 1000)
    refine sum_range_map_le (fun j hj => ?_)
      (Binary64.toRat_nonneg hlongest.positive hlongest.finite) hpauses
    obtain ⟨x, hx⟩ := Option.isSome_iff_exists.mp (hdelays j hj)
    exact Policy.toRat_seconds_le hx hy

/-- A policy whose first pause is given as a text and whose cap as a real with a fraction. -/
def textAndReal : Policy :=
  ⟨.int 3, .text " 5_0", .real ⟨0x406F5CCCCCCCCCCD⟩, 3, 50, 250, by decide, by decide, by decide⟩

/-- A closed connection with that policy to a database that stays busy. -/
def busyThrice : Site where
  connection :=
    { path := "/index", policy := textAndReal, busyTimeout := Binary64.zero false,
      script := some (List.replicate 3 (.fails (.store StoreError.locked))) }
  world := { environment := ⟨[], "/", [], "/"⟩ }

theorem backoff_bounded_textAndReal :
    Policy.of (.int 3) (.text " 5_0") (.real ⟨0x406F5CCCCCCCCCCD⟩) = .ok textAndReal ∧
      (∀ i : Int, textAndReal.delayBefore (.int i) = .ok (.int (textAndReal.delay i)) ∧
        50 ≤ textAndReal.delay i ∧ textAndReal.delay i ≤ 250) ∧
      (∀ i ≥ 0, textAndReal.delay (i + 1) = min (2 * textAndReal.delay i) 250) ∧
      (∃ n, ∀ i ≥ n, textAndReal.delay i = 250) ∧
      (Task.exec establish busyThrice).2.world.tally =
        ⟨3, [textAndReal.seconds 0, textAndReal.seconds 1]⟩ ∧
      textAndReal.delay 0 + textAndReal.delay 1 ≤ (3 - 1) * 250 ∧
      (textAndReal.seconds 0).toRat + (textAndReal.seconds 1).toRat ≤ (3 - 1) / 4 := by
  have hpolicy : Policy.of (.int 3) (.text " 5_0") (.real ⟨0x406F5CCCCCCCCCCD⟩) =
    .ok textAndReal := rfl
  have hattempts : (Task.exec establish busyThrice).2.world.tally.attempts = 3 := rfl
  have hquarter : (Binary64.divNat ⟨0x406F400000000000⟩ 1000).toRat = 1 / 4 := by
    have hratio : (Binary64.divNat ⟨0x406F400000000000⟩ 1000).ratio =
      (0x10000000000000, 0x40000000000000) := by decide
    rw [Binary64.toRat_of_isFinite (by decide), hratio]
    norm_num
  obtain ⟨N, I, M, hN, hI, hM, hdelays, -, hdoubles, -, hreaches, hopens⟩ :=
    backoff_bounded hpolicy
  obtain rfl : 3 = N := Except.ok.inj hN
  obtain rfl : 50 = I := Except.ok.inj hI
  obtain rfl : 250 = M := Except.ok.inj hM
  obtain ⟨m, -, htally, hsum, -, hseconds⟩ := hopens busyThrice rfl
  have hseconds := hseconds ⟨0x406F400000000000⟩ rfl
  obtain rfl : m = 3 := by
    rw [htally] at hattempts
    simpa [busyThrice, World.tally] using hattempts
  refine ⟨hpolicy, hdelays, hdoubles, hreaches (by decide), htally, ?_, ?_⟩
  · simpa [List.range_succ] using hsum
  · norm_num [List.range_succ, hquarter] at hseconds ⊢
    exact hseconds

end Connection

end LaunchIndex
