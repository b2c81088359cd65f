import OracleIntake.Proofs.Settings.Reading

/-!
# Writing settings that were read

Settings that were read are written with the texts they were read from. Only a greatest wait that was not
written may be written in addition; where none is, reading again gives the same settings.

* `environment_of_read`: what is written, and what it is read as.
-/
namespace OracleIntake

namespace Environment

/-- The key is bound in the second environment and not in the first. -/
def Adds (env out : Environment) (key : SettingsKey) : Prop := env.text? key = none ∧ (out.text? key).isSome

end Environment

namespace Settings
variable {env : Environment} {s : Settings} {key : SettingsKey}

/-- The keys are written in ascending order, each at most once. -/
theorem keys_environment (s : Settings) :
    (s.environment.map Prod.fst).Sublist (SettingsKey.ascending.map SettingsKey.name) := by
  have hkeys : s.environment.map Prod.fst =
      (SettingsKey.ascending.filter fun key => (s.written? key).isSome).map SettingsKey.name := by
    rw [environment]
    induction SettingsKey.ascending with
    | nil => rfl
    | cons key keys ih => cases ht : s.written? key <;> simp [ht, ih]
  rw [hkeys]
  exact List.filter_sublist.map _

theorem written?_of_read (h : read env = .ok s) (key : SettingsKey) :
    s.written? key =
      if key = .password then some Password.redacted else (env.text? key).or (s.canonical? key) := by
  rw [written?, (read_ok h).2.1, lookup_recordedTexts]
  split
  · next hkey => rw [hkey]; rfl
  · rfl

theorem fallbackPort_of_absent (h : read env = .ok s) (habsent : env.text? .fallbackPort = none) :
    s.fallbackPort = none := by
  obtain ⟨-, -, d, hd, hcheck⟩ := read_ok h
  obtain ⟨-, hs⟩ := Draft.check_ok hcheck
  obtain ⟨-, hfallback, -⟩ := readDraft_ok hd
  have hport : s.fallbackPort = d.fallbackPort.filter (· ≠ 0) := congrArg fallbackPort hs
  have hnone : d.fallbackPort = none := by
    simp only [readFallbackPort, Environment.optional?, habsent] at hfallback
    exact (Except.ok.inj hfallback).symm
  rw [hport, hnone]
  rfl

theorem backoff_of_absent (h : read env = .ok s) (habsent : env.text? .retryBackoff = none) :
    s.retry.backoff = .linear := by
  have hbackoff := readBackoff_of_read h
  simp only [readBackoff, Environment.optional?, habsent] at hbackoff
  exact (Except.ok.inj hbackoff).symm

/-- A text that was not read has no canonical spelling either, the greatest wait's excepted. -/
theorem canonical?_of_absent (h : read env = .ok s) (habsent : env.text? key = none)
    (hkey : key ≠ .retryMaxDelay) : s.canonical? key = none := by
  have hrequired : key ∉ SettingsKey.required := fun hmem => by
    obtain ⟨text, htext⟩ := missingKey?_eq_none_iff.1 (read_ok h).1 key hmem
    rw [habsent] at htext
    cases htext
  cases key with
  | fallbackPort => rw [canonical?, fallbackPort_of_absent h habsent]; rfl
  | retryBackoff => rw [canonical?, backoff_of_absent h habsent]
  | retryMaxDelay => exact absurd rfl hkey
  | _ => exact absurd (by decide) hrequired

theorem isSome_canonical?_retryMaxDelay (s : Settings) :
    (s.canonical? .retryMaxDelay).isSome ↔ ∃ longest, s.retry.backoff = .exponential longest := by
  cases hb : s.retry.backoff <;> simp [canonical?, hb]

theorem text?_environmentWith (s : Settings) (p : Password) (key : SettingsKey) :
    (s.environmentWith p).text? key = if key = .password then some p.clear else s.environment.text? key := by
  rw [Environment.text?, environmentWith, Bindings.value?_append]
  by_cases hkey : key = .password
  · subst hkey
    simp [Bindings.value?_cons]
  · have hname : SettingsKey.password.name ≠ key.name := fun h => hkey (SettingsKey.name_injective h).symm
    simp [Bindings.value?_cons, hkey, hname, Environment.text?]

/-- **Round trip.** What is written of settings that were read has every text that was read, as it was, the
password redacted, no other keys and each key once. Only the greatest wait may be written without having been
read, which is so if the backoff is exponential. Where it is not, what is written is read as the same settings
once the password is put back. -/
theorem environment_of_read (h : read env = .ok s) :
    (∀ key ≠ .password, ∀ text, env.text? key = some text → s.environment.text? key = some text) ∧
    s.environment.text? .password = some Password.redacted ∧
    (s.environment.map Prod.fst).Sublist (SettingsKey.ascending.map SettingsKey.name) ∧
    (∀ key, env.Adds s.environment key → key = .retryMaxDelay) ∧
    (env.Adds s.environment .retryMaxDelay ↔
      (∃ longest, s.retry.backoff = .exponential longest) ∧ env.text? .retryMaxDelay = none) ∧
    (¬ env.Adds s.environment .retryMaxDelay → read (s.environmentWith s.target.password) = .ok s) := by
  have hwritten : ∀ key ≠ .password, s.environment.text? key = (env.text? key).or (s.canonical? key) :=
    fun key hkey => by rw [text?_environment, written?_of_read h, if_neg hkey]
  have hadds : env.Adds s.environment .retryMaxDelay ↔
      (∃ longest, s.retry.backoff = .exponential longest) ∧ env.text? .retryMaxDelay = none := by
    rw [Environment.Adds, and_comm, and_congr_left_iff]
    intro habsent
    rw [hwritten _ (by decide), habsent, Option.none_or, isSome_canonical?_retryMaxDelay]
  refine ⟨fun key hkey text htext => ?_, ?_, keys_environment s, fun key hadd => ?_, hadds, fun hnot => ?_⟩
  · rw [hwritten key hkey, htext, Option.some_or]
  · rw [text?_environment, written?_of_read h, if_pos rfl]
  · -- the password was there, and of the other keys only one may be written without having been read
    by_contra hkey
    by_cases hpassword : key = .password
    · rw [hpassword, Environment.Adds, (password_of_read h).1] at hadd
      cases hadd.1
    · have hnone := hwritten key hpassword
      rw [hadd.1, canonical?_of_absent h hadd.1 hkey] at hnone
      simp [Environment.Adds, hnone] at hadd
  · -- the texts are those that were read, so reading them again goes the same way
    have hagree : AgreeExcept .password env (s.environmentWith s.target.password) := fun key hkey => by
      rw [text?_environmentWith, if_neg hkey, hwritten key hkey]
      cases htext : env.text? key with
      | some text => rfl
      | none =>
        by_cases hmax : key = .retryMaxDelay
        · have hnone : ¬ ∃ longest, s.retry.backoff = .exponential longest := fun hexp =>
            hnot (hadds.2 ⟨hexp, hmax ▸ htext⟩)
          rw [← isSome_canonical?_retryMaxDelay, Option.not_isSome_iff_eq_none] at hnone
          rw [hmax, hnone]
          rfl
        · rw [canonical?_of_absent h htext hmax]
          rfl
    obtain ⟨hclear, hblank⟩ := password_of_read h
    have hclear' : (s.environmentWith s.target.password).text? .password = some s.target.password.clear := by
      rw [text?_environmentWith, if_pos rfl]
    rw [read_withPassword hagree hclear hclear' hblank hblank, h]
    rfl

/-- Other words than the canonical ones, blanks around texts and blank optional texts. -/
theorem environment_of_read_aliases :
    let env : Environment := [
      ("ORACLE_HOST", " db "), ("ORACLE_PORT", "0002484"), ("ORACLE_SERVICE_NAME", "XE"),
      ("ORACLE_USERNAME", "scott"), ("ORACLE_PASSWORD", " tiger "), ("ORACLE_PROTOCOL", "Secure"),
      ("ORACLE_SSL_SERVER_DN_MATCH", "on"), ("ORACLE_CONNECT_TIMEOUT", "1e1"), ("ORACLE_RETRY_COUNT", "+3"),
      ("ORACLE_RETRY_DELAY", "0.50"), ("ORACLE_FALLBACK_PORT", "  "), ("ORACLE_RETRY_BACKOFF", "EXPONENTIAL"),
      ("ORACLE_RETRY_MAX_DELAY", ""), ("PATH", "/bin")]
    ∃ s, read env = .ok s ∧ s.environment.text? .protocol = some "Secure" ∧
      s.environment.text? .retryMaxDelay = some "" ∧ s.environment.text? .password = some "********" ∧
      read (s.environmentWith s.target.password) = .ok s := by
  intro env
  have hread : (read env).toOption.isSome = true := by decide +kernel
  cases hs : read env with
  | error fault => rw [hs] at hread; cases hread
  | ok s =>
    obtain ⟨hkept, hredacted, -, -, -, hagain⟩ := environment_of_read hs
    refine ⟨s, rfl, hkept _ (by decide) _ ?_, hkept _ (by decide) _ ?_, hredacted, hagain fun hadds => ?_⟩
    · decide
    · decide
    · exact absurd hadds.1 (by decide)

end Settings
end OracleIntake
