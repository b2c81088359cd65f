import OracleIntake.Proofs.Duration.Seconds
import OracleIntake.Proofs.Settings.RoundTrip

/-!
# Writing settings that were made in code

Settings that were not read from texts are written in canonical spelling, each part in its own way: numbers as
numerals, durations as seconds, words for the transport and the switch, and nothing for what is absent. Each
spelling is read as what it was written for, so the draft that is read is the draft of the settings.

* `readPort_toString`, `readTransport_protocol`, `readSwitch_word`: the spellings of the parts.
* `readDraft_unrecorded`: the draft that is read.
* `environment_of_check`: the round trip.
-/
namespace OracleIntake

/-! ## Canonical spellings -/

namespace Text

theorem trimmed_of_forall {s : String} (h : ∀ c ∈ s.toList, isBlank c = false) : trimmed s = s := by
  rw [trimmed, trim_eq_self_of_forall h, String.ofList_toList]

theorem trimmed_toString (n : Nat) : trimmed (toString n) = toString n := by
  apply trimmed_of_forall
  rw [Nat.toString_eq_ofList_toDigits, String.toList_ofList]
  exact fun c hc => isBlank_of_isDigit (Magnitude.isDigit_of_mem_toDigits hc)

theorem trimmed_secondsText (d : Duration) : trimmed d.secondsText = d.secondsText := by
  apply trimmed_of_forall
  rw [Duration.secondsText, String.toList_ofList]
  intro c hc
  rcases Magnitude.isPlain_positional _ c hc with h | rfl
  · exact isBlank_of_isDigit h
  · decide

end Text

namespace Settings
variable {s : Settings} {d : Draft} {p : Password} {env : Environment} {key : SettingsKey}

theorem readPort_toString (key : SettingsKey) {port : UInt16} (h : port ≠ 0) :
    readPort key (toString port.toNat) = .ok port := by
  have hpos : port.toNat ≠ 0 := fun hzero => h (UInt16.toNat_inj.1 hzero)
  obtain ⟨n, hn⟩ := Nat.exists_eq_succ_of_ne_zero hpos
  have hle : port.toNat ≤ 65535 := Nat.le_of_lt_succ port.toNat_lt
  rw [readPort, Nat.toString_eq_ofList_toDigits, String.toList_ofList, Numeral.natural?_toDigits hle, hn]
  simp only
  rw [← Nat.succ_eq_add_one, ← hn, UInt16.ofNat_toNat]

theorem readTransport_protocol (key : SettingsKey) (t : Transport) : readTransport key t.protocol = .ok t := by
  have hread : ∀ t : Transport, Transport.read? t.protocol = some t := fun t => by cases t <;> decide +kernel
  rw [readTransport, hread t]

theorem readSwitch_word (key : SettingsKey) (b : Bool) :
    readSwitch key (if b then "true" else "false") = .ok b := by
  have hlowered : ∀ b : Bool, Text.lowered (if b then "true" else "false") = if b then "true" else "false" :=
    fun b => by cases b <;> decide +kernel
  rw [readSwitch, hlowered b]
  cases b <;> rfl

theorem readSeconds_secondsText (key : SettingsKey) {t : Duration}
    (h : Duration.readSeconds? t.secondsText = some t) : readSeconds key t.secondsText = .ok t := by
  rw [readSeconds, h]

theorem readInteger_toString (key : SettingsKey) {n : Nat} (h : n ≤ RetryPolicy.maxCount) :
    readInteger key (toString n) = .ok (n : Int) := by
  have hlt : n < 9223372036854775808 := Nat.lt_of_le_of_lt h (by decide)
  rw [readInteger, Nat.toString_eq_ofList_toDigits, String.toList_ofList, Numeral.integer?_toDigits hlt]

/-- A duration that is written as the greatest wait is not blank, so it is read. -/
theorem readMaxDelay_of_text {longest : Duration} (h : env.text? .retryMaxDelay = some longest.secondsText)
    (delay : Duration) : readMaxDelay env delay = readSeconds .retryMaxDelay longest.secondsText := by
  have hoptional : env.optional? .retryMaxDelay = some longest.secondsText := by
    rw [Environment.optional?, h, Option.map_some, Text.trimmed_secondsText, Option.filter_some,
      longest.isEmpty_secondsText]
    rfl
  rw [readMaxDelay, hoptional]

theorem readBackoff_of_word (h : (env.optional? .retryBackoff).map Text.lowered = some "exponential")
    (delay : Duration) : readBackoff env delay = (readMaxDelay env delay).map .exponential := by
  rw [readBackoff, h]
  rfl

/-! ## The draft of settings -/

/-- The draft that becomes the settings. -/
def draft (s : Settings) : Draft :=
  { host := s.target.host, service := s.target.service, username := s.target.username
    password := s.target.password.clear, port := s.target.port, transport := s.target.transport
    verify := s.target.verify, timeout := s.target.timeout, retries := s.retry.retries, delay := s.retry.delay
    backoff := s.retry.backoff, fallbackPort := s.fallbackPort }

theorem blank?_draft (h : s.target = d.target) : s.draft.blank? = d.blank? := by
  rw [Draft.blank?, draft, h]
  rfl

/-- What settings have that passed the check: no recorded texts, ports other than zero, and a draft of their own
that passes the check again. -/
theorem checked (h : d.check = .ok s) :
    s.recorded = [] ∧ s.target.port ≠ 0 ∧ s.fallbackPort ≠ some 0 ∧ s.retry.retries ≤ RetryPolicy.maxCount ∧
      s.draft.check = .ok s := by
  obtain ⟨hblank, hnegative, hmany, hport, hs⟩ := check_eq_ok_iff.1 h
  have htarget : s.target = d.target := by rw [hs]
  have hfallback : s.fallbackPort ≠ some 0 := fun hzero => by
    rw [hs] at hzero
    simpa using (Option.filter_eq_some_iff.1 hzero).2
  have hretries : s.retry.retries ≤ RetryPolicy.maxCount := by
    rw [hs]
    show d.retries.toNat ≤ RetryPolicy.maxCount
    omega
  have hport' : s.target.port ≠ 0 := by
    rw [htarget]
    exact hport
  have hkept : s.fallbackPort.filter (· ≠ 0) = s.fallbackPort := by
    cases hf : s.fallbackPort with
    | none => rfl
    | some port =>
      have hne : port ≠ 0 := fun hzero => hfallback (by rw [hf, hzero])
      simp [hne]
  refine ⟨by rw [hs], hport', hfallback, hretries, check_eq_ok_iff.2 ⟨?_, ?_, ?_, hport', ?_⟩⟩
  · rw [blank?_draft htarget, hblank]
  · exact Int.natCast_nonneg _
  · exact Int.ofNat_le.2 hretries
  · rw [draft, hkept, Int.toNat_natCast]
    conv_lhs => rw [hs]
    rw [hs]
    rfl

/-! ## Reading canonical texts -/

section
variable (hrecorded : s.recorded = [])
include hrecorded

/-- Without recorded texts, all texts but the password are canonical. -/
theorem text?_unrecorded (hkey : key ≠ .password) : (s.environmentWith p).text? key = s.canonical? key := by
  rw [text?_environmentWith, if_neg hkey, text?_environment, written?, hrecorded, List.lookup_nil, Option.none_or]

theorem text_unrecorded (hkey : key ≠ .password) {t : String} (h : s.canonical? key = some t) :
    (s.environmentWith p).text key = Text.trimmed t := by
  rw [Environment.text, text?_unrecorded hrecorded hkey, h, Option.getD_some]

theorem missingKey?_unrecorded : missingKey? (s.environmentWith p) = none := by
  refine missingKey?_eq_none_iff.2 fun key hkey => ?_
  by_cases hpassword : key = .password
  · rw [text?_environmentWith, if_pos hpassword]
    exact ⟨_, rfl⟩
  · rw [text?_unrecorded hrecorded hpassword]
    cases key with
    | fallbackPort | retryBackoff | retryMaxDelay => exact absurd hkey (by decide)
    | _ => exact ⟨_, rfl⟩

theorem readFallbackPort_unrecorded (hport : s.fallbackPort ≠ some 0) :
    readFallbackPort (s.environmentWith p) = .ok s.fallbackPort := by
  have htext := text?_unrecorded (p := p) hrecorded (by decide : SettingsKey.fallbackPort ≠ .password)
  rw [readFallbackPort, Environment.optional?, htext, canonical?]
  cases hfallback : s.fallbackPort with
  | none => rfl
  | some port =>
    have hne : port ≠ 0 := fun hzero => hport (by rw [hfallback, hzero])
    have hnonempty : (toString port.toNat).isEmpty = false := by
      rw [Bool.eq_false_iff, Nat.toString_eq_ofList_toDigits]
      intro hempty
      exact Nat.toDigits_ne_nil (String.ofList_injective (String.isEmpty_iff.1 hempty))
    simp only [Option.map_some, Text.trimmed_toString, Option.filter_some, hnonempty, Bool.not_false, if_true,
      readPort_toString .fallbackPort hne]
    rfl

theorem readBackoff_unrecorded (hlongest : ∀ longest, s.retry.backoff = .exponential longest →
      Duration.readSeconds? longest.secondsText = some longest) (delay : Duration) :
    readBackoff (s.environmentWith p) delay = .ok s.retry.backoff := by
  have hword := text?_unrecorded (p := p) hrecorded (by decide : SettingsKey.retryBackoff ≠ .password)
  have hwait := text?_unrecorded (p := p) hrecorded (by decide : SettingsKey.retryMaxDelay ≠ .password)
  cases hbackoff : s.retry.backoff with
  | linear =>
    simp only [canonical?, hbackoff] at hword
    rw [readBackoff, Environment.optional?, hword]
    rfl
  | exponential longest =>
    simp only [canonical?, hbackoff] at hword hwait
    have hlowered : ((s.environmentWith p).optional? .retryBackoff).map Text.lowered = some "exponential" := by
      rw [Environment.optional?, hword]
      decide +kernel
    rw [readBackoff_of_word hlowered, readMaxDelay_of_text hwait,
      readSeconds_secondsText .retryMaxDelay (hlongest longest hbackoff)]
    rfl

end

/-- The parts that a text keeps: no blanks around names, and durations that go through their texts. -/
structure Spelled (s : Settings) : Prop where
  host : Text.trimmed s.target.host = s.target.host
  service : Text.trimmed s.target.service = s.target.service
  username : Text.trimmed s.target.username = s.target.username
  timeout : Duration.readSeconds? s.target.timeout.secondsText = some s.target.timeout
  delay : Duration.readSeconds? s.retry.delay.secondsText = some s.retry.delay
  longest : ∀ longest, s.retry.backoff = .exponential longest →
    Duration.readSeconds? longest.secondsText = some longest

/-- **What is read is the draft of the settings.** -/
theorem readDraft_unrecorded (hrecorded : s.recorded = []) (hspelled : s.Spelled) (hport : s.target.port ≠ 0)
    (hfallback : s.fallbackPort ≠ some 0) (hretries : s.retry.retries ≤ RetryPolicy.maxCount) :
    readDraft (s.environmentWith s.target.password) = .ok s.draft := by
  have htext := fun (key : SettingsKey) (hkey : key ≠ .password) (t : String) (h : s.canonical? key = some t) =>
    text_unrecorded (p := s.target.password) hrecorded hkey h
  have hpassword : (s.environmentWith s.target.password).text? .password = some s.target.password.clear := by
    rw [text?_environmentWith, if_pos rfl]
  have hprotocol : Text.trimmed s.target.transport.protocol = s.target.transport.protocol := by
    cases s.target.transport <;> decide +kernel
  have hswitch : Text.trimmed (if s.target.verify then "true" else "false") =
      if s.target.verify then "true" else "false" := by
    cases s.target.verify <;> decide +kernel
  refine readDraft_eq_ok_iff.2 ⟨?_, ?_, ?_, ?_, ?_, ?_, readFallbackPort_unrecorded hrecorded hfallback,
    readBackoff_unrecorded hrecorded hspelled.longest _, ?_, ?_, ?_, ?_⟩
  · rw [htext .port (by decide) _ rfl, Text.trimmed_toString]
    exact readPort_toString .port hport
  · rw [htext .protocol (by decide) _ rfl, hprotocol]
    exact readTransport_protocol .protocol _
  · rw [htext .verifyIdentity (by decide) _ rfl, hswitch]
    exact readSwitch_word .verifyIdentity _
  · rw [htext .connectTimeout (by decide) _ rfl, Text.trimmed_secondsText]
    exact readSeconds_secondsText .connectTimeout hspelled.timeout
  · rw [htext .retryCount (by decide) _ rfl, Text.trimmed_toString]
    exact readInteger_toString .retryCount hretries
  · rw [htext .retryDelay (by decide) _ rfl, Text.trimmed_secondsText]
    exact readSeconds_secondsText .retryDelay hspelled.delay
  · rw [htext .host (by decide) _ rfl, hspelled.host]
    rfl
  · rw [htext .serviceName (by decide) _ rfl, hspelled.service]
    rfl
  · rw [htext .username (by decide) _ rfl, hspelled.username]
    rfl
  · rw [hpassword]
    rfl

/-- Settings from a draft are read again as they are; the texts they were read from are recorded. -/
theorem read_unrecorded (h : d.check = .ok s) (hspelled : s.Spelled) :
    read (s.environmentWith s.target.password) =
      .ok { s with recorded := recordedTexts (s.environmentWith s.target.password) } := by
  obtain ⟨hrecorded, hport, hfallback, hretries, hcheck⟩ := checked h
  exact read_of_check (missingKey?_unrecorded hrecorded)
    (readDraft_unrecorded hrecorded hspelled hport hfallback hretries) hcheck

/-- **Round trip of settings made in code.** A draft that passes the check, whose names have no blanks around them
and whose durations go through their texts, is written and read again without loss. -/
theorem environment_of_check (h : d.check = .ok s)
    (hhost : Text.trimmed d.host = d.host) (hservice : Text.trimmed d.service = d.service)
    (husername : Text.trimmed d.username = d.username)
    (htimeout : Duration.readSeconds? d.timeout.secondsText = some d.timeout)
    (hdelay : Duration.readSeconds? d.delay.secondsText = some d.delay)
    (hlongest : ∀ longest, d.backoff = .exponential longest →
      Duration.readSeconds? longest.secondsText = some longest) :
    ∃ again, read (s.environmentWith s.target.password) = .ok again ∧
      again.target = s.target ∧ again.retry = s.retry ∧ again.fallbackPort = s.fallbackPort := by
  have hspelled : s.Spelled := by
    obtain ⟨-, rfl⟩ := Draft.check_ok h
    exact ⟨hhost, hservice, husername, htimeout, hdelay, hlongest⟩
  exact ⟨_, read_unrecorded h hspelled, rfl, rfl, rfl⟩

/-- The greatest port and count, no timeout, a fraction of a second, and a fallback port of zero, which is none. -/
theorem environment_of_check_extreme :
    let d : Draft := {
      host := "db", service := "XE", username := "scott", password := " tiger ", port := 65535
      transport := .plain, timeout := .zero, retries := 4294967295, delay := .ofMillis 1500
      backoff := .exponential (.ofSeconds 12), fallbackPort := some 0 }
    ∃ s, d.check = .ok s ∧ Text.trimmed d.host = d.host ∧ Text.trimmed d.service = d.service ∧
      Text.trimmed d.username = d.username ∧ Duration.readSeconds? d.timeout.secondsText = some d.timeout ∧
      Duration.readSeconds? d.delay.secondsText = some d.delay ∧
      (∀ longest, d.backoff = .exponential longest →
        Duration.readSeconds? longest.secondsText = some longest) ∧
      ∃ again, read (s.environmentWith s.target.password) = .ok again ∧ again.target = d.target ∧
        again.retry = ⟨4294967295, .ofMillis 1500, .exponential (.ofSeconds 12)⟩ ∧ again.fallbackPort = none := by
  intro d
  have hcheck : d.check = .ok
      { target := d.target, retry := ⟨4294967295, .ofMillis 1500, .exponential (.ofSeconds 12)⟩ } :=
    check_eq_ok_iff.2 ⟨by decide +kernel, by decide, by decide, by decide, rfl⟩
  have hhost : Text.trimmed d.host = d.host := by decide +kernel
  have hservice : Text.trimmed d.service = d.service := by decide +kernel
  have husername : Text.trimmed d.username = d.username := by decide +kernel
  have htimeout := Duration.readSeconds?_of_short (d := d.timeout) (by decide)
  have hdelay := Duration.readSeconds?_of_short (d := d.delay) (by decide)
  have hlongest : ∀ longest, d.backoff = .exponential longest →
      Duration.readSeconds? longest.secondsText = some longest := fun longest h => by
    cases h
    exact Duration.readSeconds?_of_short (by decide)
  exact ⟨_, hcheck, hhost, hservice, husername, htimeout, hdelay, hlongest,
    environment_of_check hcheck hhost hservice husername htimeout hdelay hlongest⟩

end Settings
end OracleIntake
