import LaunchIndex.Settings

/-! What is known of settings that were loaded. Each entry of their file has passed its check, so
every retry field is in its own bounds. A default passes no check, and so the bound between the
first and the longest pause is certain only where the longest one has an entry, or where the
first is not longer than the default. -/

namespace LaunchIndex

namespace Policy

theorem of_int_ok {n i c : Int} (hn : 1 ≤ n) (hi : 0 ≤ i) (hc : i ≤ c) :
    Policy.of (.int n) (.int i) (.int c) =
      .ok ⟨.int n, .int i, .int c, n, i, c, hn, hi, hc⟩ := by
  simp only [Policy.of, Value.toInteger, bind, Except.bind, hn, hi, hc, ↓reduceDIte]
  rfl

theorem of_int_delayExceedsCap {n i c : Int} (hn : 1 ≤ n) (hi : 0 ≤ i) (hc : c < i) :
    Policy.of (.int n) (.int i) (.int c) = .error .delayExceedsCap := by
  simp only [Policy.of, Value.toInteger, bind, Except.bind, hn, hi, Int.not_le.mpr hc, ↓reduceDIte]

end Policy

namespace Settings

/-! ### Checked entries -/

theorem field_eq_ok {α : Type} {entries : Entries} {key : Text}
    {read : Yaml.Datum → Except Defect α} {found : Option α}
    (h : field entries key read = .ok found) :
    (valueUnder? entries key = none ∧ found = none) ∨
      ∃ d a, valueUnder? entries key = some d ∧ read d = .ok a ∧ found = some a := by
  unfold field at h
  cases hd : valueUnder? entries key with
  | none =>
    rw [hd] at h
    exact .inl ⟨rfl, (Except.ok.inj h).symm⟩
  | some d =>
    rw [hd] at h
    cases ha : read d with
    | error defect => simp [ha, Except.map] at h
    | ok a =>
      simp only [ha, Except.map] at h
      exact .inr ⟨d, a, rfl, ha, (Except.ok.inj h).symm⟩

theorem of_checked_eq_ok {α : Type} {defect : Defect} {holds : α → Bool}
    {result : Except Defect α} {a : α} (h : checked defect holds result = .ok a) :
    holds a = true := by
  cases result with
  | error d => exact absurd h (by simp [checked, bind, Except.bind])
  | ok b =>
    simp only [checked, bind, Except.bind] at h
    split at h
    · next hb => exact Except.ok.inj h ▸ hb
    · exact absurd h (by simp)

/-- A condition that holds for the default and for every entry that passes holds for a field
without a defect. -/
theorem valueOr_checked {α : Type} {entries : Entries} {key : Text} {defect : Defect}
    {holds : α → Bool} {read : Yaml.Datum → Except Defect α} {found : Option α} (default : α)
    (h : field entries key (fun d => checked defect holds (read d)) = .ok found)
    (hdefault : holds default = true) : holds (found.getD default) = true := by
  rcases field_eq_ok h with ⟨-, rfl⟩ | ⟨d, a, -, ha, rfl⟩
  · exact hdefault
  · exact of_checked_eq_ok ha

theorem complaint_eq_nil {α : Type} {key : Text} {f : Except Defect α}
    (h : complaint key f = []) : ∃ a, f = .ok a := by
  cases f with
  | ok a => exact ⟨a, rfl⟩
  | error defect => exact absurd h (by simp [complaint])

/-- The retry fields of settings come from entries that have passed their checks, or are
defaults. -/
structure Follows (s : Settings) (entries : Entries) : Prop where
  one_le_attempts : 1 ≤ s.attempts
  initialDelay_nonneg : 0 ≤ s.initialDelay
  initialDelay_le : (valueUnder? entries "retry_max_delay_ms").isSome →
    s.initialDelay ≤ s.maxDelay
  maxDelay_default : valueUnder? entries "retry_max_delay_ms" = none →
    s.maxDelay = Policy.defaultCap

theorem default_follows (e : Environment) : (default e).Follows [] where
  one_le_attempts := by simp [default, Policy.defaultAttempts]
  initialDelay_nonneg := by simp [default, Policy.defaultInitial]
  initialDelay_le h := absurd h (by simp [valueUnder?])
  maxDelay_default _ := rfl

/-- Settings have their paths in full, and else what the fields say. -/
theorem Fields.of_settings_eq_ok {e : Environment} {f : Fields} {s : Settings}
    (h : f.settings e = .ok s) :
    pathOr e (default e).databasePath f.databasePath = .ok s.databasePath ∧
      pathOr e (default e).preferencesPath f.preferencesPath = .ok s.preferencesPath ∧
      s.attempts = valueOr Policy.defaultAttempts f.attempts ∧
      s.initialDelay = valueOr Policy.defaultInitial f.initialDelay ∧
      s.maxDelay = valueOr Policy.defaultCap f.maxDelay ∧
      s.busyTimeout = valueOr (Binary64.zero false) f.busyTimeout := by
  simp only [Fields.settings, bind, Except.bind] at h
  split at h
  · exact absurd h (by simp)
  · next databasePath hdatabase =>
    split at h
    · exact absurd h (by simp)
    · next preferencesPath hpreferences =>
      obtain rfl := Except.ok.inj h
      exact ⟨hdatabase, hpreferences, rfl, rfl, rfl, rfl⟩

/-- The entry of the longest pause is checked against the first pause of the settings, be that
an entry or a default. -/
theorem Fields.settings_follows {e : Environment} {entries : Entries} {s : Settings}
    (hcomplaints : (Fields.of entries).complaints = [])
    (h : (Fields.of entries).settings e = .ok s) : s.Follows entries := by
  simp only [Fields.complaints, List.append_eq_nil_iff] at hcomplaints
  obtain ⟨⟨⟨⟨⟨-, hattempts⟩, hinitial⟩, hmax⟩, -⟩, -⟩ := hcomplaints
  obtain ⟨attempts, hattempts⟩ := complaint_eq_nil hattempts
  obtain ⟨initial, hinitial⟩ := complaint_eq_nil hinitial
  obtain ⟨cap, hmax⟩ := complaint_eq_nil hmax
  have hs : s.attempts = attempts.getD Policy.defaultAttempts ∧
      s.initialDelay = initial.getD Policy.defaultInitial ∧
      s.maxDelay = cap.getD Policy.defaultCap := by
    obtain ⟨-, -, h₁, h₂, h₃, -⟩ := Fields.of_settings_eq_ok h
    rw [h₁, h₂, h₃, hattempts, hinitial, hmax]
    refine ⟨?_, ?_, ?_⟩
    · cases attempts <;> rfl
    · cases initial <;> rfl
    · cases cap <;> rfl
  obtain ⟨h₁, h₂, h₃⟩ := hs
  refine ⟨?_, ?_, fun hpresent => ?_, fun habsent => ?_⟩
  · have hchecked := valueOr_checked Policy.defaultAttempts hattempts (by decide)
    rw [h₁]
    simpa using hchecked
  · have hchecked := valueOr_checked Policy.defaultInitial hinitial (by decide)
    rw [h₂]
    simpa using hchecked
  · rcases field_eq_ok hmax with ⟨hnone, -⟩ | ⟨d, c, -, hc, rfl⟩
    · exact absurd hpresent (by simp [hnone])
    · have hbound := of_checked_eq_ok hc
      have hfield : field entries "retry_initial_delay_ms" (fun d =>
          checked .negative (fun i => 0 ≤ i) (Entry.integer d)) = .ok initial := hinitial
      rw [hfield] at hbound
      rw [h₂, h₃]
      cases initial with
      | none => exact of_decide_eq_true hbound
      | some i => exact of_decide_eq_true hbound
  · rcases field_eq_ok hmax with ⟨-, rfl⟩ | ⟨d, c, hd, -, -⟩
    · exact h₃
    · exact absurd habsent (by simp [hd])

/-! ### The policy of loaded settings -/

/-- The entries of the file with a name; without a file there are none. -/
def entriesAt (name : Text) (w : World) : Outcome Entries :=
  match w.disk.bytes? name with
  | .error fault => .error fault
  | .ok none => .ok []
  | .ok (some bytes) => entriesOf name bytes

/-- Settings that load are the defaults where there is no file, and else those of a document without
complaints. -/
theorem of_load_eq_ok {path : Option Text} {w : World} {s : Settings}
    (h : (load path w).1 = .ok s) :
    (w.disk.bytes? (path.getD (standardPath w.environment)) = .ok none ∧
        s = default w.environment) ∨
      ∃ bytes entries, w.disk.bytes? (path.getD (standardPath w.environment)) = .ok (some bytes) ∧
        entriesOf (path.getD (standardPath w.environment)) bytes = .ok entries ∧
        complaints entries = [] ∧ (Fields.of entries).settings w.environment = .ok s := by
  simp only [load] at h
  cases hbytes : w.disk.bytes? (path.getD (standardPath w.environment)) with
  | error fault => simp [hbytes] at h
  | ok found =>
    cases found with
    | none =>
      simp only [hbytes] at h
      exact .inl ⟨rfl, (Except.ok.inj h).symm⟩
    | some bytes =>
      simp only [hbytes] at h
      cases hentries : entriesOf (path.getD (standardPath w.environment)) bytes with
      | error fault => simp [hentries, Except.bind] at h
      | ok entries =>
        simp only [hentries, Except.bind] at h
        refine .inr ⟨bytes, entries, rfl, hentries, ?_⟩
        cases hof : ofEntries w.environment entries with
        | error fault => simp [hof] at h
        | ok t =>
          -- the warning about a long timeout is only logged
          have hst : t = s := by
            simp only [hof] at h
            split at h <;> exact Except.ok.inj h
          subst hst
          unfold ofEntries at hof
          split at hof
          · next hcomplaints => exact ⟨hcomplaints, hof⟩
          · exact absurd hof (by simp)

theorem follows_of_load {path : Option Text} {w : World} {s : Settings}
    (h : (load path w).1 = .ok s) :
    ∃ entries, entriesAt (path.getD (standardPath w.environment)) w = .ok entries ∧
      s.Follows entries := by
  rcases of_load_eq_ok h with ⟨hbytes, rfl⟩ | ⟨bytes, entries, hbytes, hentries, hcomplaints, hs⟩
  · exact ⟨[], by rw [entriesAt, hbytes], default_follows _⟩
  · refine ⟨entries, by rw [entriesAt, hbytes]; exact hentries, ?_⟩
    unfold complaints at hcomplaints
    split at hcomplaints
    · exact absurd hcomplaints (by simp)
    · exact Fields.settings_follows (List.append_eq_nil_iff.mp hcomplaints).1 hs

/-- The policy has the retry fields of the settings, as they were given and as integers. -/
structure Grants (s : Settings) (p : Policy) : Prop where
  givenAttempts : p.givenAttempts = .int s.attempts
  givenInitial : p.givenInitial = .int s.initialDelay
  givenCap : p.givenCap = .int s.maxDelay
  attempts : p.attempts = s.attempts
  initial : p.initial = s.initialDelay
  cap : p.cap = s.maxDelay

/-- Loaded settings give a policy with their retry fields if the longest pause has an entry, or
the first is not longer than the default of the longest. Otherwise they give none. -/
theorem load_policy {path : Option Text} {w : World} {s : Settings}
    (h : (load path w).1 = .ok s) :
    ∃ entries, entriesAt (path.getD (standardPath w.environment)) w = .ok entries ∧
      1 ≤ s.attempts ∧ 0 ≤ s.initialDelay ∧
      ((valueUnder? entries "retry_max_delay_ms").isSome ∨ s.initialDelay ≤ Policy.defaultCap →
        ∃ p, s.policy = .ok p ∧ s.Grants p ∧ 1 ≤ p.attempts ∧ 0 ≤ p.initial ∧
          p.initial ≤ p.cap) ∧
      (valueUnder? entries "retry_max_delay_ms" = none → Policy.defaultCap < s.initialDelay →
        s.policy = .error .delayExceedsCap) := by
  obtain ⟨entries, hentries, hs⟩ := follows_of_load h
  refine ⟨entries, hentries, hs.one_le_attempts, hs.initialDelay_nonneg, fun hbound => ?_,
    fun habsent hlong => ?_⟩
  · have hle : s.initialDelay ≤ s.maxDelay := by
      cases hentry : valueUnder? entries "retry_max_delay_ms" with
      | some d => exact hs.initialDelay_le (by simp [hentry])
      | none =>
        rw [hs.maxDelay_default hentry]
        exact hbound.resolve_left (by simp [hentry])
    exact ⟨_, Policy.of_int_ok hs.one_le_attempts hs.initialDelay_nonneg hle,
      ⟨rfl, rfl, rfl, rfl, rfl, rfl⟩, hs.one_le_attempts, hs.initialDelay_nonneg, hle⟩
  · rw [policy, hs.maxDelay_default habsent]
    exact Policy.of_int_delayExceedsCap hs.one_le_attempts hs.initialDelay_nonneg hlong

/-- A start with one file, which says how long the first pause is and nothing else. -/
def slowStart : World where
  environment := { assignments := [], workingDirectory := "/" }
  disk :=
    { entries := [(["slow.yaml"], .file 0)]
      contents := [(0, .bytes ((Text.ofString "retry_initial_delay_ms: 2000\n").flatMap fun c =>
        Text.Utf8.octets c.val))] }

/-- The file is accepted, and its first pause is longer than the default of the longest. -/
theorem load_slowStart :
    ∃ s, (load (some "/slow.yaml") slowStart).1 = .ok s ∧ s.initialDelay = 2000 ∧
      s.maxDelay = 1600 := by
  have h : ((load (some "/slow.yaml") slowStart).1.toOption.map fun s =>
      (s.initialDelay, s.maxDelay)) = some (2000, 1600) := by
    decide +kernel
  cases hs : (load (some "/slow.yaml") slowStart).1 with
  | error fault => simp [hs, Except.toOption] at h
  | ok s => exact ⟨s, rfl, by simpa [hs, Except.toOption] using h⟩

theorem load_policy_slowStart :
    ∃ s entries, (load (some "/slow.yaml") slowStart).1 = .ok s ∧
      entriesAt "/slow.yaml" slowStart = .ok entries ∧ 1 ≤ s.attempts ∧ 0 ≤ s.initialDelay ∧
      ((valueUnder? entries "retry_max_delay_ms").isSome ∨ s.initialDelay ≤ Policy.defaultCap →
        ∃ p, s.policy = .ok p ∧ s.Grants p ∧ 1 ≤ p.attempts ∧ 0 ≤ p.initial ∧
          p.initial ≤ p.cap) ∧
      (valueUnder? entries "retry_max_delay_ms" = none → Policy.defaultCap < s.initialDelay →
        s.policy = .error .delayExceedsCap) := by
  obtain ⟨s, hs, -⟩ := load_slowStart
  obtain ⟨entries, h⟩ := load_policy hs
  exact ⟨s, entries, hs, h⟩

/-- Not all settings that load give a policy: a first pause alone in a file can be longer than
the default of the longest. -/
theorem not_load_policy :
    ¬∀ (path : Option Text) (w : World) (s : Settings), (load path w).1 = .ok s →
      ∃ p, s.policy = .ok p ∧ s.Grants p ∧ 1 ≤ p.attempts ∧ 0 ≤ p.initial ∧
        p.initial ≤ p.cap := by
  intro hall
  obtain ⟨s, hs, hinitial, hmax⟩ := load_slowStart
  obtain ⟨p, -, hp, -, -, hle⟩ := hall _ _ _ hs
  rw [hp.initial, hp.cap, hinitial, hmax] at hle
  exact absurd hle (by decide)

end Settings

end LaunchIndex
