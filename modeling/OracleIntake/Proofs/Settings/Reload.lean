import OracleIntake.Proofs.Settings.Canonical

/-!
# Reading a greatest wait that was not written

An exponential backoff without a greatest wait waits at most eight times the first wait. Written again, this wait
has a text of its own, and all other texts stay as they were. So the settings that are read again are the same but
for the greatest wait, which goes through a double: it is lost where the double is a nanosecond off, and settings
whose greatest wait is the longest duration are refused.

* `read_again`: what is read again.
* `read_again_default`: where nothing is lost, and where the settings are refused.
* `refused_longest`: settings that are refused when they are read again.
-/
namespace OracleIntake.Settings
variable {env env' : Environment} {s : Settings} {d : Draft} {delay longest : Duration}

/-- What is written of the settings is read again with the same endpoint, retries and fallback port, once the
password is put back. -/
def Survives (s : Settings) : Prop :=
  ∃ again, read (s.environmentWith s.target.password) = .ok again ∧
    again.target = s.target ∧ again.retry = s.retry ∧ again.fallbackPort = s.fallbackPort

/-! ## Exponential backoff -/

theorem readBackoff_exponential (h : readBackoff env delay = .ok (.exponential longest)) :
    (env.optional? .retryBackoff).map Text.lowered = some "exponential" ∧ readMaxDelay env delay = .ok longest := by
  unfold readBackoff at h
  split at h
  · cases h
  · next word hword =>
    split at h
    · cases h
    · split at h
      · next hexponential =>
        refine ⟨by rw [hword, hexponential], ?_⟩
        cases hmax : readMaxDelay env delay with
        | error reason => rw [hmax] at h; cases h
        | ok wait => rw [hmax] at h; cases h; rfl
      · cases h

/-- The draft of environments that differ in the greatest wait is told by the backoff. -/
theorem readDraft_of_agreeExcept_retryMaxDelay (h : AgreeExcept .retryMaxDelay env env') (hd : readDraft env = .ok d) :
    readDraft env' = (readBackoff env' d.delay).map fun backoff => { d with backoff } := by
  simp only [readDraft, bind_eq_ok] at hd
  obtain ⟨port, hport, transport, htransport, verify, hverify, timeout, htimeout, retries, hretries, delay, hdelay,
    fallbackPort, hfallback, backoff, -, hd⟩ := hd
  cases hd
  unfold readDraft
  simp only [text_of_agree h, readFallbackPort_of_agree h, h .password, ne_eq, reduceCtorEq, not_false_eq_true, hport,
    htransport, hverify, htimeout, hretries, hdelay, hfallback]
  cases hbackoff : readBackoff env' delay <;> simp only [bind, Except.bind, hbackoff] <;> rfl

theorem check_withBackoff (h : d.check = .ok s) (backoff : Backoff) :
    Draft.check { d with backoff } = .ok { s with retry := { s.retry with backoff } } := by
  obtain ⟨hblank, hnegative, hmany, hport, rfl⟩ := check_eq_ok_iff.1 h
  exact check_eq_ok_iff.2 ⟨hblank, hnegative, hmany, hport, rfl⟩

/-! ## Reading again -/

/-- What is written has the texts that were read, the greatest wait's excepted. -/
theorem agreeExcept_environmentWith (h : read env = .ok s) :
    AgreeExcept .retryMaxDelay env (s.environmentWith s.target.password) := by
  intro key hkey
  rw [text?_environmentWith]
  split
  · next hpassword => rw [hpassword, (password_of_read h).1]
  · next hpassword =>
    rw [text?_environment, written?_of_read h, if_neg hpassword]
    cases htext : env.text? key with
    | some text => rfl
    | none => rw [canonical?_of_absent h htext hkey, Option.none_or]

theorem longest_of_absent (h : read env = .ok s) (hexponential : s.retry.backoff = .exponential longest)
    (habsent : env.text? .retryMaxDelay = none) : longest = s.retry.delay.times 8 := by
  have hbackoff := readBackoff_of_read h
  rw [hexponential] at hbackoff
  have hmax := (readBackoff_exponential hbackoff).2
  simp only [readMaxDelay, Environment.optional?, habsent] at hmax
  exact (Except.ok.inj hmax).symm

/-- **Reading again.** Nothing is read otherwise but the greatest wait, which is read from its text. -/
theorem read_again (h : read env = .ok s) (hexponential : s.retry.backoff = .exponential longest)
    (habsent : env.text? .retryMaxDelay = none) :
    read (s.environmentWith s.target.password) =
      match Duration.readSeconds? longest.secondsText with
      | some wait => .ok { s with
          retry := { s.retry with backoff := .exponential wait }
          recorded := recordedTexts (s.environmentWith s.target.password) }
      | none => .error (.settings (.notSeconds SettingsKey.retryMaxDelay.name longest.secondsText)) := by
  obtain ⟨hmissing, -, d, hd, hcheck⟩ := read_ok h
  have hagree := agreeExcept_environmentWith h
  have hmissing' : missingKey? (s.environmentWith s.target.password) = none := by
    refine missingKey?_eq_none_iff.2 fun key hkey => ?_
    have hne : key ≠ .retryMaxDelay := fun hmax => absurd hkey (by rw [hmax]; decide)
    rw [hagree key hne]
    exact missingKey?_eq_none_iff.1 hmissing key hkey
  have hwritten : (s.environmentWith s.target.password).text? .retryMaxDelay = some longest.secondsText := by
    rw [text?_environmentWith, if_neg (by decide), text?_environment, written?_of_read h, if_neg (by decide), habsent,
      Option.none_or, canonical?, hexponential]
  have hbackoff := readBackoff_of_read h
  rw [hexponential] at hbackoff
  have hword := (readBackoff_exponential hbackoff).1
  rw [← optional?_of_agree hagree (by decide)] at hword
  rw [read, hmissing', readDraft_of_agreeExcept_retryMaxDelay hagree hd, readBackoff_of_word hword,
    readMaxDelay_of_text hwritten, readSeconds]
  cases Duration.readSeconds? longest.secondsText with
  | none => rfl
  | some wait =>
    have hagain := check_withBackoff hcheck (.exponential wait)
    simp only [Except.map, bind, Except.bind, hagain]

/-- The settings survive where their greatest wait does. -/
theorem survives_iff (h : read env = .ok s) (hexponential : s.retry.backoff = .exponential longest)
    (habsent : env.text? .retryMaxDelay = none) :
    s.Survives ↔ Duration.readSeconds? longest.secondsText = some longest := by
  rw [Survives, read_again h hexponential habsent]
  cases Duration.readSeconds? longest.secondsText with
  | none => simp
  | some wait =>
    refine ⟨fun ⟨again, hagain, _, hretry, _⟩ => ?_, fun hwait => ?_⟩
    · cases hagain
      have hbackoff : Backoff.exponential wait = s.retry.backoff := congrArg RetryPolicy.backoff hretry
      rw [hexponential] at hbackoff
      cases hbackoff
      rfl
    · cases hwait
      exact ⟨_, rfl, rfl, by rw [← hexponential], rfl⟩

theorem nanos_times_eight (h : delay.nanos < 2305843009213693952 * 1000000000) :
    (delay.times 8).nanos = delay.nanos * 8 := by
  rw [Duration.times, Duration.nanos_saturated]
  simp only [Duration.longest]
  omega

/-- Eight times a long duration is the longest. -/
theorem times_eight_of_long (h : 2305843009213693952 * 1000000000 ≤ delay.nanos) :
    delay.times 8 = .longest := by
  rw [Duration.times, Duration.saturated, dif_neg (by omega)]

section
variable (h : read env = .ok s) (hexponential : s.retry.backoff = .exponential longest)
  (habsent : env.text? .retryMaxDelay = none)

include h hexponential habsent

theorem survives_of_short (hshort : s.retry.delay.nanos < 1048576 * 1000000000) : s.Survives := by
  rw [survives_iff h hexponential habsent, longest_of_absent h hexponential habsent]
  apply Duration.readSeconds?_of_short
  rw [nanos_times_eight (by omega)]
  omega

theorem survives_of_whole (hwhole : s.retry.delay.subseconds = 0)
    (hlow : s.retry.delay.seconds < 1125899906842624) : s.Survives := by
  have hnanos : s.retry.delay.nanos = s.retry.delay.seconds * 1000000000 := by
    rw [Duration.subseconds] at hwhole
    rw [Duration.seconds]
    omega
  have htimes : (s.retry.delay.times 8).nanos = s.retry.delay.nanos * 8 := nanos_times_eight (by omega)
  rw [survives_iff h hexponential habsent, longest_of_absent h hexponential habsent]
  apply Duration.readSeconds?_of_whole
  · rw [Duration.subseconds, htimes]
    omega
  · rw [Duration.seconds, htimes]
    omega

theorem read_again_of_long (hlong : 2305843009213693952 * 1000000000 ≤ s.retry.delay.nanos) :
    read (s.environmentWith s.target.password) =
      .error (.settings (.notSeconds "ORACLE_RETRY_MAX_DELAY" "18446744073709552000")) := by
  rw [read_again h hexponential habsent, longest_of_absent h hexponential habsent, times_eight_of_long hlong,
    Duration.readSeconds?_longest.2, Duration.readSeconds?_longest.1]
  rfl

end

/-- **A greatest wait that was not written.** Only this wait can change when the settings are read again, and they
are refused only for it. They survive for first waits below `2 ^ 20` seconds and for whole seconds below `2 ^ 50`;
from `2 ^ 61` seconds on they are refused. -/
theorem read_again_default (h : read env = .ok s) (hexponential : s.retry.backoff = .exponential longest)
    (habsent : env.text? .retryMaxDelay = none) :
    longest = s.retry.delay.times 8 ∧
    (s.Survives ↔ Duration.readSeconds? longest.secondsText = some longest) ∧
    (∀ again, read (s.environmentWith s.target.password) = .ok again →
      ∃ wait, Duration.readSeconds? longest.secondsText = some wait ∧ again.target = s.target ∧
        again.retry = { s.retry with backoff := .exponential wait } ∧ again.fallbackPort = s.fallbackPort) ∧
    (∀ fault, read (s.environmentWith s.target.password) = .error fault →
      fault = .settings (.notSeconds "ORACLE_RETRY_MAX_DELAY" longest.secondsText)) ∧
    (s.retry.delay.nanos < 1048576 * 1000000000 → s.Survives) ∧
    (s.retry.delay.subseconds = 0 → s.retry.delay.seconds < 1125899906842624 → s.Survives) ∧
    (2305843009213693952 * 1000000000 ≤ s.retry.delay.nanos →
      read (s.environmentWith s.target.password) =
        .error (.settings (.notSeconds "ORACLE_RETRY_MAX_DELAY" "18446744073709552000"))) := by
  have hagain := read_again h hexponential habsent
  refine ⟨longest_of_absent h hexponential habsent, survives_iff h hexponential habsent, fun again hok => ?_,
    fun fault herror => ?_, survives_of_short h hexponential habsent, survives_of_whole h hexponential habsent,
    read_again_of_long h hexponential habsent⟩
  · rw [hagain] at hok
    cases hwait : Duration.readSeconds? longest.secondsText with
    | none => rw [hwait] at hok; cases hok
    | some wait => rw [hwait] at hok; cases hok; exact ⟨wait, rfl, rfl, rfl, rfl⟩
  · rw [hagain] at herror
    cases hwait : Duration.readSeconds? longest.secondsText with
    | none => rw [hwait] at herror; cases herror; rfl
    | some wait => rw [hwait] at herror; cases herror

theorem exists_read {α : Type} {part : Settings → α} {a : α} (h : (read env).toOption.map part = some a) :
    ∃ s, read env = .ok s ∧ part s = a := by
  cases hs : read env with
  | error fault => rw [hs] at h; cases h
  | ok s => rw [hs] at h; exact ⟨s, rfl, Option.some.inj h⟩

/-- Two and a half seconds, and up to twenty. -/
theorem read_again_default_fraction :
    let env : Environment := [
      ("ORACLE_HOST", "db"), ("ORACLE_PORT", "2484"), ("ORACLE_SERVICE_NAME", "XE"), ("ORACLE_USERNAME", "scott"),
      ("ORACLE_PASSWORD", " tiger "), ("ORACLE_PROTOCOL", "plain"), ("ORACLE_SSL_SERVER_DN_MATCH", "off"),
      ("ORACLE_CONNECT_TIMEOUT", "1e1"), ("ORACLE_RETRY_COUNT", "3"), ("ORACLE_RETRY_DELAY", " 2.50 "),
      ("ORACLE_RETRY_BACKOFF", "Exponential")]
    ∃ s, read env = .ok s ∧ s.retry.backoff = .exponential (.ofSeconds 20) ∧
      env.text? .retryMaxDelay = none ∧ s.Survives := by
  intro env
  obtain ⟨s, hs, hretry⟩ := exists_read
    (by decide +kernel : (read env).toOption.map (·.retry) = some ⟨3, .ofMillis 2500, .exponential (.ofSeconds 20)⟩)
  have hexponential : s.retry.backoff = .exponential (.ofSeconds 20) := by rw [hretry]
  have habsent : env.text? .retryMaxDelay = none := by decide
  obtain ⟨-, -, -, -, hshort, -⟩ := read_again_default hs hexponential habsent
  refine ⟨s, hs, hexponential, habsent, hshort ?_⟩
  rw [hretry]
  decide

/-- **Settings that are refused when they are read again.** Eight times the first wait is the longest duration,
whose text is too long. -/
theorem refused_longest :
    let env : Environment := [
      ("ORACLE_HOST", "wms-db.internal"), ("ORACLE_PORT", "2484"), ("ORACLE_SERVICE_NAME", "WMSPDB"),
      ("ORACLE_USERNAME", "wms_loader"), ("ORACLE_PASSWORD", "hunter2"), ("ORACLE_PROTOCOL", "tcps"),
      ("ORACLE_SSL_SERVER_DN_MATCH", "true"), ("ORACLE_CONNECT_TIMEOUT", "30"), ("ORACLE_RETRY_COUNT", "3"),
      ("ORACLE_RETRY_DELAY", "1e19"), ("ORACLE_RETRY_BACKOFF", "exponential")]
    ∃ s, read env = .ok s ∧ s.retry.backoff = .exponential .longest ∧ env.text? .retryMaxDelay = none ∧
      ¬ s.Survives := by
  intro env
  obtain ⟨s, hs, hexponential⟩ := exists_read
    (by decide +kernel : (read env).toOption.map (·.retry.backoff) = some (.exponential .longest))
  have habsent : env.text? .retryMaxDelay = none := by decide
  refine ⟨s, hs, hexponential, habsent, ?_⟩
  rw [survives_iff hs hexponential habsent, Duration.readSeconds?_longest.2]
  nofun

/-- A first wait of 2000000.1 seconds: the greatest wait is read a nanosecond longer. -/
example : Duration.readSeconds? (Duration.times ⟨2000000100000000, by decide⟩ 8).secondsText =
    some ⟨16000000800000001, by decide⟩ := by decide +kernel

end OracleIntake.Settings
