import LoginGate.Settings

/-! # Completed settings

Defaults for limits take effect in two places. Settings are completed by replacing the limits that
are not positive, one after the other, and the gate takes each limit as a positive number or else
its default. Both come to the same: the gate does not see whether settings have been completed.
-/

namespace LoginGate.Settings

variable (settings : Settings)

/-! ## One limit after the other -/

/-- Mending replaces the limit that it is about, unless that is positive. -/
theorem get_mended (field other : LimitField) :
    (settings.mended field).limits.get other =
      if field = other ∧ settings.limits.get other ≤ 0 then (other.fallback : Int)
      else settings.limits.get other := by
  rcases Int.lt_or_le 0 (settings.limits.get field) with positive | missing
  · rw [mended_of_pos positive]
    split
    · next own =>
      obtain ⟨rfl, missing⟩ := own
      omega
    · rfl
  · rw [mended_of_le missing, LimitSettings.get_set]
    by_cases own : field = other
    · subst own
      rw [if_pos rfl, if_pos ⟨rfl, missing⟩]
    · rw [if_neg own, if_neg fun both => own both.1]

theorem get_foldl_mended (fields : List LimitField) (field : LimitField) :
    (fields.foldl mended settings).limits.get field =
      if field ∈ fields ∧ settings.limits.get field ≤ 0 then (field.fallback : Int)
      else settings.limits.get field := by
  induction fields generalizing settings with
  | nil => simp
  | cons first rest ih =>
    have positive := field.fallback_pos
    rw [List.foldl_cons, ih, get_mended]
    grind

/-- Of several different limits, those are noted that are not positive, in their order. -/
theorem notes_foldl_mended {fields : List LimitField} (distinct : fields.Nodup) :
    (fields.foldl mended settings).notes =
      settings.notes ++ (fields.filter fun field => settings.limits.get field ≤ 0).map
        fun field => field.note (settings.limits.get field) := by
  induction fields generalizing settings with
  | nil => simp
  | cons first rest ih =>
    obtain ⟨fresh, distinct⟩ := List.nodup_cons.mp distinct
    -- The limits that follow are still as they were set.
    have untouched : ∀ field ∈ rest, (settings.mended first).limits.get field =
        settings.limits.get field := by
      intro field member
      rw [get_mended, if_neg]
      rintro ⟨rfl, -⟩
      exact fresh member
    have later : (rest.filter fun field => (settings.mended first).limits.get field ≤ 0).map
          (fun field => field.note ((settings.mended first).limits.get field)) =
        (rest.filter fun field => settings.limits.get field ≤ 0).map
          fun field => field.note (settings.limits.get field) := by
      rw [List.filter_congr fun field member => by rw [untouched field member]]
      refine List.map_congr_left fun field member => ?_
      rw [untouched field (List.mem_filter.mp member).1]
    rw [List.foldl_cons, ih _ distinct, later]
    rcases Int.lt_or_le 0 (settings.limits.get first) with positive | missing
    · rw [mended_of_pos positive, List.filter_cons_of_neg (by simpa using positive)]
    · rw [mended_of_le missing, List.filter_cons_of_pos (by simpa using missing), List.map_cons,
        List.append_assoc, List.singleton_append]

theorem foldl_mended_eq (fields : List LimitField) :
    fields.foldl mended settings =
      { settings with
        limits := (fields.foldl mended settings).limits
        notes := (fields.foldl mended settings).notes } := by
  induction fields generalizing settings with
  | nil => rfl
  | cons first rest ih =>
    rw [List.foldl_cons]
    refine (ih (settings.mended first)).trans ?_
    rcases Int.lt_or_le 0 (settings.limits.get first) with positive | missing
    · rw [mended_of_pos positive]
    · rw [mended_of_le missing]

/-! ## All limits -/

/-- Completed settings have the limits that are positive as they were set, and defaults for the
others. -/
theorem get_completed (field : LimitField) :
    settings.completed.limits.get field =
      if 0 < settings.limits.get field then settings.limits.get field
      else (field.fallback : Int) := by
  have listed : field ∈ LimitField.all := by cases field <;> decide
  rw [completed, get_foldl_mended]
  rcases Int.lt_or_le 0 (settings.limits.get field) with positive | missing
  · rw [if_neg fun both => Int.not_le.mpr positive both.2, if_pos positive]
  · rw [if_pos ⟨listed, missing⟩, if_neg (Int.not_lt.mpr missing)]

theorem notes_completed :
    settings.completed.notes =
      settings.notes ++ (LimitField.all.filter fun field => settings.limits.get field ≤ 0).map
        fun field => field.note (settings.limits.get field) :=
  settings.notes_foldl_mended (by decide)

/-- All other settings stay as they are. -/
theorem completed_eq :
    settings.completed =
      { settings with limits := settings.completed.limits, notes := settings.completed.notes } :=
  settings.foldl_mended_eq LimitField.all

/-- No limit of completed settings is zero or negative. -/
theorem get_completed_pos (field : LimitField) : 0 < settings.completed.limits.get field := by
  have positive := field.fallback_pos
  rw [get_completed]
  split <;> omega

/-- A limit has the same effect before and after. -/
theorem effective_completed (field : LimitField) :
    settings.completed.limits.effective field = settings.limits.effective field := by
  rw [LimitSettings.effective_of_pos (settings.get_completed_pos field), get_completed]
  split
  · next positive => rw [LimitSettings.effective_of_pos positive]
  · next missing => rw [LimitSettings.effective_of_le (Int.not_lt.mp missing), Int.toNat_natCast]

theorem completed_of_pos {settings : Settings}
    (positive : ∀ field, 0 < settings.limits.get field) : settings.completed = settings := by
  have none : (LimitField.all.filter fun field => settings.limits.get field ≤ 0) = [] := by
    rw [List.filter_eq_nil_iff]
    intro field _
    have positive := positive field
    simpa using positive
  have limits : settings.completed.limits = settings.limits := by
    ext field
    rw [get_completed, if_pos (positive field)]
  have notes : settings.completed.notes = settings.notes := by
    rw [notes_completed, none, List.map_nil, List.append_nil]
  rw [completed_eq, limits, notes]

/-- A completed limit has effect as it stands. -/
theorem effective_completed_eq (field : LimitField) :
    (settings.completed.limits.effective field : Int) = settings.completed.limits.get field := by
  have positive := settings.get_completed_pos field
  rw [LimitSettings.effective_of_pos positive]
  omega

/-- A window of a 64-bit number of milliseconds is as long as it says. -/
theorem nanos_span_completed (inWord : settings.limits.window ≤ Int64.maxValue.toInt) :
    (settings.completed.limits.span.nanos : Int) =
      settings.completed.limits.window * 1_000_000 := by
  have bound : Int64.maxValue.toInt = 9_223_372_036_854_775_807 := rfl
  have same : (settings.completed.limits.effective .window : Int) =
      settings.completed.limits.window := settings.effective_completed_eq .window
  have window : settings.completed.limits.window =
      if 0 < settings.limits.window then settings.limits.window else 60000 :=
    settings.get_completed .window
  have nanos : settings.completed.limits.span.nanos =
      min (settings.completed.limits.effective .window * 1_000_000) Duration.maxNanos := rfl
  rw [nanos, Duration.maxNanos, UInt64.size]
  split at window <;> omega

/-- The gate has the same limits and the same window whether settings have been completed or not.
Completing them replaces the limits that are not positive and nothing else, with a note on each of
them, and leaves nothing to be replaced; then the limits and the window of the gate are what the
settings say, even the longest window that can be set. -/
theorem completed_keeps_effect (settings : Settings) :
    (settings.completed.limits.attemptLimits = settings.limits.attemptLimits ∧
      settings.completed.limits.span = settings.limits.span) ∧
    settings.completed =
      { settings with
        limits := {
          login := if 0 < settings.limits.login then settings.limits.login else 10
          password := if 0 < settings.limits.password then settings.limits.password else 100
          address := if 0 < settings.limits.address then settings.limits.address else 1000
          window := if 0 < settings.limits.window then settings.limits.window else 60000 }
        notes := settings.notes ++
          (LimitField.all.filter fun field => settings.limits.get field ≤ 0).map
            fun field => field.note (settings.limits.get field) } ∧
    (∀ field, 0 < settings.completed.limits.get field) ∧
    settings.completed.completed = settings.completed ∧
    (settings.completed.limits.attemptLimits.login : Int) = settings.completed.limits.login ∧
    (settings.completed.limits.attemptLimits.password : Int) =
      settings.completed.limits.password ∧
    (settings.completed.limits.attemptLimits.address : Int) = settings.completed.limits.address ∧
    (settings.limits.window ≤ Int64.maxValue.toInt →
      (settings.completed.limits.span.nanos : Int) =
        settings.completed.limits.window * 1_000_000) := by
  have effects := settings.effective_completed
  refine ⟨⟨?_, ?_⟩, ?_, settings.get_completed_pos, completed_of_pos settings.get_completed_pos,
    settings.effective_completed_eq .login, settings.effective_completed_eq .password,
    settings.effective_completed_eq .address, settings.nanos_span_completed⟩
  · simp only [LimitSettings.attemptLimits, effects]
  · rw [LimitSettings.span, LimitSettings.span, effects]
  · rw [completed_eq, notes_completed]
    congr 1
    ext field
    rw [get_completed]
    cases field <;> rfl

/-- The least value, a negative one and zero give way to defaults, the largest one does not. -/
theorem completed_keeps_effect_of_extremes :
    let settings : Settings :=
      { limits := ⟨Int64.minValue.toInt, -5, 0, Int64.maxValue.toInt⟩, notes := ["earlier"] }
    settings.limits.window ≤ Int64.maxValue.toInt ∧
      settings.completed.limits = ⟨10, 100, 1000, 9223372036854775807⟩ ∧
      settings.completed.notes = ["earlier",
        "limits.login_per_window is -9223372036854775808, using default 10",
        "limits.password_per_window is -5, using default 100",
        "limits.ip_per_window is 0, using default 1000"] ∧
      (settings.completed.limits.span.nanos : Int) = 9223372036854775807 * 1_000_000 := by
  intro settings
  have inWord : settings.limits.window ≤ Int64.maxValue.toInt := by decide
  obtain ⟨-, result, -, -, -, -, -, span⟩ := completed_keeps_effect settings
  have limits : settings.completed.limits = ⟨10, 100, 1000, 9223372036854775807⟩ := by
    rw [result]
    decide
  refine ⟨inWord, limits, ?_, ?_⟩
  · rw [result]
    decide +kernel
  · rw [span inWord, limits]

end LoginGate.Settings
