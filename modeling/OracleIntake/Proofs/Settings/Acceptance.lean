import OracleIntake.Proofs.Settings.Canonical

/-!
# Which environments are accepted

Settings are read from texts of several kinds, each with its own rule: port numbers, counts, durations, words and names.
Every reader is told here by what its text writes, and the settings that are read by what the texts write together. A
missing key is told before any text is read; whatever else is wrong is one fault of the settings.

* `readPort_eq_ok_iff`, `readTransport_eq_ok_iff`, `readSwitch_eq_ok_iff`, `readFallbackPort_eq_ok_iff`,
  `readBackoff_eq_ok_iff`: the readers.
* `read_acceptance`: which environments are accepted, and as which settings.
-/
namespace OracleIntake

/-! ## Texts of each kind -/

namespace Transport

def words : Transport → List String
  | secure => secureWords
  | plain => plainWords

theorem read?_eq_some_iff {s : String} {t : Transport} :
    read? s = some t ↔ Text.lowered (Text.trimmed s) ∈ t.words := by
  have hapart : ∀ word ∈ plainWords, word ∉ secureWords := by decide
  unfold read?
  by_cases hsecure : Text.lowered (Text.trimmed s) ∈ secureWords
  · have hplain : Text.lowered (Text.trimmed s) ∉ plainWords := fun hword => hapart _ hword hsecure
    cases t <;> simp [words, hsecure, hplain]
  · cases t <;> simp [words, hsecure]

end Transport

namespace Environment
variable {env : Environment} {key : SettingsKey}

theorem trimmed_text (env : Environment) (key : SettingsKey) : Text.trimmed (env.text key) = env.text key :=
  Text.trimmed_trimmed _

/-- An optional text counts if something is left of it. -/
theorem optional?_eq (env : Environment) (key : SettingsKey) :
    env.optional? key = if env.text key = "" then none else some (env.text key) := by
  rw [optional?, text]
  cases env.text? key with
  | none => rfl
  | some s =>
    by_cases hs : Text.trimmed s = ""
    · simp [hs]
    · simp [hs]

end Environment

namespace Settings
variable {env : Environment} {s : Settings} {d : Draft} {key : SettingsKey} {text : String}

/-! ## The readers -/

def WritesPort (text : String) (port : UInt16) : Prop := Numeral.WritesUnsigned text.toList port.toNat ∧ port ≠ 0

theorem readPort_eq_ok_iff {port : UInt16} : readPort key text = .ok port ↔ WritesPort text port := by
  constructor
  · intro h
    unfold readPort at h
    split at h
    · next n hn =>
      cases h
      obtain ⟨hwrites, hle⟩ := Numeral.natural?_eq_some_iff.1 hn
      have hnat : (UInt16.ofNat (n + 1)).toNat = n + 1 := UInt16.toNat_ofNat_of_lt' (Nat.lt_succ_of_le hle)
      refine ⟨by rwa [hnat], fun hzero => ?_⟩
      rw [hzero] at hnat
      cases hnat
    · cases h
  · rintro ⟨hwrites, hne⟩
    have hread := Numeral.natural?_eq_some_iff.2 ⟨hwrites, Nat.le_of_lt_succ port.toNat_lt⟩
    obtain ⟨n, hn⟩ := Nat.exists_eq_succ_of_ne_zero fun hzero => hne (UInt16.toNat_inj.1 hzero)
    rw [readPort, hread, hn]
    simp only
    rw [← Nat.succ_eq_add_one, ← hn, UInt16.ofNat_toNat]

theorem exists_writesPort_iff :
    (∃ port, WritesPort text port) ↔ ∃ n, 1 ≤ n ∧ n ≤ 65535 ∧ Numeral.WritesUnsigned text.toList n := by
  constructor
  · rintro ⟨port, hwrites, hne⟩
    refine ⟨port.toNat, Nat.pos_of_ne_zero fun hzero => hne (UInt16.toNat_inj.1 hzero), ?_, hwrites⟩
    exact Nat.le_of_lt_succ port.toNat_lt
  · rintro ⟨n, hpos, hle, hwrites⟩
    have hnat : (UInt16.ofNat n).toNat = n := UInt16.toNat_ofNat_of_lt' (Nat.lt_succ_of_le hle)
    refine ⟨UInt16.ofNat n, by rwa [hnat], fun hzero => ?_⟩
    rw [hzero] at hnat
    rw [← hnat] at hpos
    cases hpos

theorem readTransport_eq_ok_iff {t : Transport} :
    readTransport key text = .ok t ↔ Text.lowered (Text.trimmed text) ∈ t.words := by
  rw [readTransport, ← Transport.read?_eq_some_iff]
  cases Transport.read? text <;> simp

def switchWords : Bool → List String
  | true => onWords
  | false => offWords

theorem readSwitch_eq_ok_iff {b : Bool} : readSwitch key text = .ok b ↔ Text.lowered text ∈ switchWords b := by
  have hapart : ∀ word ∈ offWords, word ∉ onWords := by decide
  unfold readSwitch
  by_cases hon : Text.lowered text ∈ onWords
  · have hoff : Text.lowered text ∉ offWords := fun hword => hapart _ hword hon
    cases b <;> simp [switchWords, hon, hoff]
  · by_cases hoff : Text.lowered text ∈ offWords <;> cases b <;> simp [switchWords, hon, hoff]

theorem readSeconds_eq_ok_iff {t : Duration} :
    readSeconds key text = .ok t ↔ Duration.readSeconds? text = some t := by
  rw [readSeconds]
  cases Duration.readSeconds? text <;> simp

theorem readInteger_eq_ok_iff {i : Int} : readInteger key text = .ok i ↔
    Numeral.WritesSigned text.toList i ∧ -9223372036854775808 ≤ i ∧ i < 9223372036854775808 := by
  rw [readInteger, ← Numeral.integer?_eq_some_iff]
  cases Numeral.integer? text.toList <;> simp

/-- The environment writes the fallback port, or nothing for it. -/
def WritesFallback (env : Environment) : Option UInt16 → Prop
  | none => env.text .fallbackPort = ""
  | some port => env.text .fallbackPort ≠ "" ∧ WritesPort (env.text .fallbackPort) port

theorem readFallbackPort_eq_ok_iff {port : Option UInt16} :
    readFallbackPort env = .ok port ↔ WritesFallback env port := by
  rw [readFallbackPort, Environment.optional?_eq]
  by_cases hblank : env.text .fallbackPort = ""
  · cases port <;> simp [WritesFallback, hblank]
  · have hread : ∀ n, readPort .fallbackPort (env.text .fallbackPort) = .ok n ↔
        WritesPort (env.text .fallbackPort) n := fun n => readPort_eq_ok_iff
    cases hport : readPort .fallbackPort (env.text .fallbackPort) <;> cases port <;>
      simp [WritesFallback, hblank, ← hread, hport, Except.map]

/-- The environment writes the greatest wait. Without a text it is eight times the first, or the longest duration. -/
def WritesLongest (env : Environment) (delay longest : Duration) : Prop :=
  (env.text .retryMaxDelay = "" ∧ longest.nanos = min (8 * delay.nanos) Duration.longest.nanos) ∨
    (env.text .retryMaxDelay ≠ "" ∧ Duration.readSeconds? (env.text .retryMaxDelay) = some longest)

theorem eq_times_eight_iff {delay longest : Duration} :
    longest = delay.times 8 ↔ longest.nanos = min (8 * delay.nanos) Duration.longest.nanos := by
  have htimes : (delay.times 8).nanos = min (8 * delay.nanos) Duration.longest.nanos := by
    rw [Duration.times, Duration.nanos_saturated, Nat.mul_comm]
  rw [← htimes, Duration.mk.injEq]

theorem readMaxDelay_eq_ok_iff {delay longest : Duration} :
    readMaxDelay env delay = .ok longest ↔ WritesLongest env delay longest := by
  rw [readMaxDelay, Environment.optional?_eq, WritesLongest, ← eq_times_eight_iff]
  by_cases hblank : env.text .retryMaxDelay = ""
  · simp [hblank, eq_comm]
  · simp [hblank, readSeconds_eq_ok_iff]

/-- The environment writes the backoff. Without a text it is linear, and then no greatest wait is read. -/
def WritesBackoff (env : Environment) (delay : Duration) : Backoff → Prop
  | .linear => env.text .retryBackoff = "" ∨ Text.lowered (env.text .retryBackoff) = "linear"
  | .exponential longest =>
    Text.lowered (env.text .retryBackoff) = "exponential" ∧ WritesLongest env delay longest

theorem readBackoff_eq_ok_iff {delay : Duration} {backoff : Backoff} :
    readBackoff env delay = .ok backoff ↔ WritesBackoff env delay backoff := by
  have hempty : Text.lowered "" ≠ "exponential" := by decide
  rw [readBackoff, Environment.optional?_eq]
  by_cases hblank : env.text .retryBackoff = ""
  · cases backoff <;> simp [WritesBackoff, hblank, hempty]
  by_cases hlinear : Text.lowered (env.text .retryBackoff) = "linear"
  · cases backoff <;> simp [WritesBackoff, hblank, hlinear]
  by_cases hexponential : Text.lowered (env.text .retryBackoff) = "exponential"
  · have hread : ∀ longest, readMaxDelay env delay = .ok longest ↔ WritesLongest env delay longest :=
      fun longest => readMaxDelay_eq_ok_iff
    cases hmax : readMaxDelay env delay <;> cases backoff <;>
      simp [WritesBackoff, hblank, hexponential, ← hread, hmax, Except.map]
  · cases backoff <;> simp [WritesBackoff, hblank, hlinear, hexponential]

/-! ## Acceptance -/

/-- All required keys are there. -/
def Complete (env : Environment) : Prop := ∀ key ∈ SettingsKey.required, ∃ text, env.text? key = some text

/-- Each text is one that its reader takes. A text under a key is told without the blanks around it, and it is empty
where there is none. -/
structure Acceptable (env : Environment) : Prop where
  port : ∃ n, 1 ≤ n ∧ n ≤ 65535 ∧ Numeral.WritesUnsigned (env.text .port).toList n
  fallbackPort : env.text .fallbackPort ≠ "" →
    ∃ n, 1 ≤ n ∧ n ≤ 65535 ∧ Numeral.WritesUnsigned (env.text .fallbackPort).toList n
  protocol : Text.lowered (env.text .protocol) ∈ ["tcps", "secure", "ssl", "tls", "tcp", "plain", "none"]
  verifyIdentity : Text.lowered (env.text .verifyIdentity) ∈ ["true", "1", "yes", "on", "false", "0", "no", "off"]
  retryBackoff : env.text .retryBackoff ≠ "" → Text.lowered (env.text .retryBackoff) ∈ ["linear", "exponential"]
  retryCount : ∃ i : Int, 0 ≤ i ∧ i ≤ 4294967295 ∧ Numeral.WritesSigned (env.text .retryCount).toList i
  connectTimeout : ∃ timeout, Duration.readSeconds? (env.text .connectTimeout) = some timeout
  retryDelay : ∃ delay, Duration.readSeconds? (env.text .retryDelay) = some delay
  /-- The greatest wait counts for an exponential backoff only. -/
  retryMaxDelay : Text.lowered (env.text .retryBackoff) = "exponential" → env.text .retryMaxDelay ≠ "" →
    ∃ longest, Duration.readSeconds? (env.text .retryMaxDelay) = some longest
  host : env.text .host ≠ ""
  serviceName : env.text .serviceName ≠ ""
  username : env.text .username ≠ ""
  /-- The password is taken with the blanks around it, but it is not all blank. -/
  password : ∀ password, env.text? .password = some password → ∃ c ∈ password.toList, Text.isBlank c = false

/-- The settings are what the texts write. -/
structure Written (env : Environment) (s : Settings) : Prop where
  host : s.target.host = env.text .host
  port : WritesPort (env.text .port) s.target.port
  service : s.target.service = env.text .serviceName
  username : s.target.username = env.text .username
  password : env.text? .password = some s.target.password.clear
  transport : Text.lowered (env.text .protocol) ∈ s.target.transport.words
  verify : Text.lowered (env.text .verifyIdentity) ∈ switchWords s.target.verify
  timeout : Duration.readSeconds? (env.text .connectTimeout) = some s.target.timeout
  retries : Numeral.WritesSigned (env.text .retryCount).toList s.retry.retries
  delay : Duration.readSeconds? (env.text .retryDelay) = some s.retry.delay
  backoff : WritesBackoff env s.retry.delay s.retry.backoff
  fallbackPort : WritesFallback env s.fallbackPort
  recorded : ∀ key, s.recorded.lookup key = if key = .password then none else env.text? key

theorem exists_writesFallback_iff : (∃ port, WritesFallback env port) ↔ (env.text .fallbackPort ≠ "" →
    ∃ n, 1 ≤ n ∧ n ≤ 65535 ∧ Numeral.WritesUnsigned (env.text .fallbackPort).toList n) := by
  rw [← exists_writesPort_iff, Option.exists]
  by_cases hblank : env.text .fallbackPort = "" <;> simp [WritesFallback, hblank]

theorem exists_writesLongest_iff (delay : Duration) : (∃ longest, WritesLongest env delay longest) ↔
    (env.text .retryMaxDelay ≠ "" → ∃ longest, Duration.readSeconds? (env.text .retryMaxDelay) = some longest) := by
  simp only [WritesLongest, ← eq_times_eight_iff]
  by_cases hblank : env.text .retryMaxDelay = "" <;> simp [hblank]

theorem exists_writesBackoff_iff (delay : Duration) : (∃ backoff, WritesBackoff env delay backoff) ↔
    (env.text .retryBackoff ≠ "" → Text.lowered (env.text .retryBackoff) ∈ ["linear", "exponential"]) ∧
      (Text.lowered (env.text .retryBackoff) = "exponential" → env.text .retryMaxDelay ≠ "" →
        ∃ longest, Duration.readSeconds? (env.text .retryMaxDelay) = some longest) := by
  rw [← exists_writesLongest_iff delay]
  constructor
  · rintro ⟨backoff, h⟩
    cases backoff with
    | linear =>
      refine ⟨fun hne => ?_, fun hexponential => ?_⟩
      · simp [h.resolve_left hne]
      · rcases h with h | h
        · rw [h] at hexponential
          exact absurd hexponential (by decide)
        · rw [h] at hexponential
          exact absurd hexponential (by decide)
    | exponential longest => exact ⟨fun _ => by simp [h.1], fun _ => ⟨longest, h.2⟩⟩
  · rintro ⟨hword, hlongest⟩
    by_cases hblank : env.text .retryBackoff = ""
    · exact ⟨.linear, .inl hblank⟩
    rcases List.mem_cons.1 (hword hblank) with hlinear | hrest
    · exact ⟨.linear, .inr hlinear⟩
    · have hexponential : Text.lowered (env.text .retryBackoff) = "exponential" := List.mem_singleton.1 hrest
      obtain ⟨longest, hwrites⟩ := hlongest hexponential
      exact ⟨.exponential longest, hexponential, hwrites⟩

theorem isBlankText_text : Text.isBlankText (env.text key) = false ↔ env.text key ≠ "" := by
  rw [← Bool.not_eq_true, ne_eq]
  exact not_congr (Text.isBlankText_trimmed _)

theorem isBlankText_eq_false_iff : Text.isBlankText text = false ↔ ∃ c ∈ text.toList, Text.isBlank c = false := by
  simp [Text.isBlankText, List.all_eq_false]

/-- A draft that was read and passes the check is told by the texts. -/
theorem written_of_read (h : read env = .ok s) : Written env s := by
  obtain ⟨-, hrecorded, d, hd, hcheck⟩ := read_ok h
  obtain ⟨hport, htransport, hverify, htimeout, hretries, hdelay, hfallback, hbackoff, hhost, hservice, husername,
    -⟩ := readDraft_eq_ok_iff.1 hd
  obtain ⟨-, hnegative, -, -, hs⟩ := check_eq_ok_iff.1 hcheck
  have htarget : s.target = d.target := congrArg target hs
  have hretry : s.retry = ⟨d.retries.toNat, d.delay, d.backoff⟩ := congrArg retry hs
  have hfallbackPort : s.fallbackPort = d.fallbackPort := by
    have hfilter : s.fallbackPort = d.fallbackPort.filter (· ≠ 0) := congrArg fallbackPort hs
    have hwrites := readFallbackPort_eq_ok_iff.1 hfallback
    cases hd : d.fallbackPort with
    | none => rw [hfilter, hd]; rfl
    | some port =>
      rw [hd] at hwrites
      rw [hfilter, hd, Option.filter_some, if_pos (by simpa using hwrites.2.2)]
  have hcount : (d.retries.toNat : Int) = d.retries := Int.toNat_of_nonneg hnegative
  exact {
    host := by rw [htarget, ← hhost]; rfl
    port := by rw [htarget]; exact readPort_eq_ok_iff.1 hport
    service := by rw [htarget, ← hservice]; rfl
    username := by rw [htarget, ← husername]; rfl
    password := (password_of_read h).1
    transport := by rw [htarget, ← env.trimmed_text .protocol]; exact readTransport_eq_ok_iff.1 htransport
    verify := by rw [htarget]; exact readSwitch_eq_ok_iff.1 hverify
    timeout := by rw [htarget]; exact readSeconds_eq_ok_iff.1 htimeout
    retries := by rw [hretry]; exact hcount ▸ (readInteger_eq_ok_iff.1 hretries).1
    delay := by rw [hretry]; exact readSeconds_eq_ok_iff.1 hdelay
    backoff := by rw [hretry]; exact readBackoff_eq_ok_iff.1 hbackoff
    fallbackPort := by rw [hfallbackPort]; exact readFallbackPort_eq_ok_iff.1 hfallback
    recorded := fun key => by rw [hrecorded, lookup_recordedTexts] }

theorem acceptable_of_read (h : read env = .ok s) : Acceptable env := by
  obtain ⟨-, -, d, hd, hcheck⟩ := read_ok h
  obtain ⟨hport, htransport, hverify, htimeout, hretries, hdelay, hfallback, hbackoff, hhost, hservice, husername,
    hpassword⟩ := readDraft_eq_ok_iff.1 hd
  obtain ⟨hblank, hnegative, hmany, -, -⟩ := check_eq_ok_iff.1 hcheck
  obtain ⟨hblankHost, hblankService, hblankUsername, hblankPassword⟩ := blank?_eq_none_iff.1 hblank
  rw [hhost, isBlankText_text] at hblankHost
  rw [hservice, isBlankText_text] at hblankService
  rw [husername, isBlankText_text] at hblankUsername
  rw [hpassword, isBlankText_eq_false_iff] at hblankPassword
  obtain ⟨hbackoffWord, hlongest⟩ := (exists_writesBackoff_iff d.delay).1 ⟨_, readBackoff_eq_ok_iff.1 hbackoff⟩
  have hwords : ∀ t : Transport, ∀ word ∈ t.words,
      word ∈ ["tcps", "secure", "ssl", "tls", "tcp", "plain", "none"] := fun t => by cases t <;> decide
  have hswitches : ∀ b, ∀ word ∈ switchWords b,
      word ∈ ["true", "1", "yes", "on", "false", "0", "no", "off"] := by decide
  exact {
    port := exists_writesPort_iff.1 ⟨_, readPort_eq_ok_iff.1 hport⟩
    fallbackPort := exists_writesFallback_iff.1 ⟨_, readFallbackPort_eq_ok_iff.1 hfallback⟩
    protocol := hwords _ _ (by rw [← env.trimmed_text .protocol]; exact readTransport_eq_ok_iff.1 htransport)
    verifyIdentity := hswitches _ _ (readSwitch_eq_ok_iff.1 hverify)
    retryBackoff := hbackoffWord
    retryCount := ⟨d.retries, hnegative, hmany, (readInteger_eq_ok_iff.1 hretries).1⟩
    connectTimeout := ⟨_, readSeconds_eq_ok_iff.1 htimeout⟩
    retryDelay := ⟨_, readSeconds_eq_ok_iff.1 hdelay⟩
    retryMaxDelay := hlongest
    host := hblankHost
    serviceName := hblankService
    username := hblankUsername
    password := fun password htext => by rw [htext] at hblankPassword; exact hblankPassword }

theorem exists_transport_word {word : String}
    (h : word ∈ ["tcps", "secure", "ssl", "tls", "tcp", "plain", "none"]) : ∃ t : Transport, word ∈ t.words := by
  rcases List.mem_append.1 (show word ∈ Transport.secureWords ++ Transport.plainWords from h) with hsecure | hplain
  · exact ⟨.secure, hsecure⟩
  · exact ⟨.plain, hplain⟩

theorem exists_switch_word {word : String}
    (h : word ∈ ["true", "1", "yes", "on", "false", "0", "no", "off"]) : ∃ b, word ∈ switchWords b := by
  rcases List.mem_append.1 (show word ∈ onWords ++ offWords from h) with hon | hoff
  · exact ⟨true, hon⟩
  · exact ⟨false, hoff⟩

theorem exists_readDraft_of_acceptable (h : Acceptable env) : ∃ d, readDraft env = .ok d ∧
    0 ≤ d.retries ∧ d.retries ≤ 4294967295 := by
  obtain ⟨port, hport⟩ := exists_writesPort_iff.2 h.port
  obtain ⟨transport, htransport⟩ := exists_transport_word h.protocol
  obtain ⟨verify, hverify⟩ := exists_switch_word h.verifyIdentity
  obtain ⟨timeout, htimeout⟩ := h.connectTimeout
  obtain ⟨retries, hnegative, hmany, hretries⟩ := h.retryCount
  obtain ⟨delay, hdelay⟩ := h.retryDelay
  obtain ⟨fallbackPort, hfallback⟩ := exists_writesFallback_iff.2 h.fallbackPort
  obtain ⟨backoff, hbackoff⟩ := (exists_writesBackoff_iff delay).2 ⟨h.retryBackoff, h.retryMaxDelay⟩
  have hinteger : readInteger .retryCount (env.text .retryCount) = .ok retries :=
    readInteger_eq_ok_iff.2 ⟨hretries, by omega, by omega⟩
  rw [← env.trimmed_text .protocol] at htransport
  refine ⟨⟨env.text .host, env.text .serviceName, env.text .username, (env.text? .password).getD "", port, transport,
    verify, timeout, retries, delay, backoff, fallbackPort⟩, readDraft_eq_ok_iff.2 ?_, hnegative, hmany⟩
  exact ⟨readPort_eq_ok_iff.2 hport, readTransport_eq_ok_iff.2 htransport, readSwitch_eq_ok_iff.2 hverify,
    readSeconds_eq_ok_iff.2 htimeout, hinteger, readSeconds_eq_ok_iff.2 hdelay, readFallbackPort_eq_ok_iff.2 hfallback,
    readBackoff_eq_ok_iff.2 hbackoff, rfl, rfl, rfl, rfl⟩

/-- What is acceptable is read: the draft that it writes passes the check. -/
theorem exists_read_of_acceptable (hcomplete : Complete env) (h : Acceptable env) : ∃ s, read env = .ok s := by
  obtain ⟨d, hd, hnegative, hmany⟩ := exists_readDraft_of_acceptable h
  obtain ⟨password, hpassword⟩ := hcomplete .password (by decide)
  obtain ⟨hport, -, -, -, -, -, -, -, hhost, hservice, husername, hclear⟩ := readDraft_eq_ok_iff.1 hd
  rw [hpassword] at hclear
  have hblank : d.blank? = none := by
    rw [blank?_eq_none_iff, hhost, hservice, husername, hclear]
    exact ⟨isBlankText_text.2 h.host, isBlankText_text.2 h.serviceName, isBlankText_text.2 h.username,
      isBlankText_eq_false_iff.2 (h.password password hpassword)⟩
  have hcheck := check_eq_ok_iff.2 ⟨hblank, hnegative, hmany, (readPort_eq_ok_iff.1 hport).2, rfl⟩
  exact ⟨_, read_of_check (missingKey?_eq_none_iff.2 hcomplete) hd hcheck⟩

/-- A missing key is the first that is looked for and not found. -/
theorem read_missing_iff {name : String} : read env = .error (.missingKey name) ↔
    ∃ before key after, SettingsKey.required = before ++ key :: after ∧ name = key.name ∧ env.text? key = none ∧
      ∀ k ∈ before, ∃ text, env.text? k = some text := by
  have hread : read env = .error (.missingKey name) ↔ ∃ key, missingKey? env = some key ∧ name = key.name := by
    unfold read
    cases missingKey? env with
    | some key => simp [eq_comm]
    | none => cases readDraft env >>= Draft.check <;> simp
  rw [hread]
  constructor
  · rintro ⟨key, hmissing, hname⟩
    obtain ⟨habsent, before, after, hsplit, hbefore⟩ := List.find?_eq_some_iff_append.1 hmissing
    refine ⟨before, key, after, hsplit, hname, Option.isNone_iff_eq_none.1 habsent, fun k hk => ?_⟩
    exact Option.isSome_iff_exists.1 (by simpa using hbefore k hk)
  · rintro ⟨before, key, after, hsplit, hname, habsent, hbefore⟩
    refine ⟨key, List.find?_eq_some_iff_append.2
      ⟨Option.isNone_iff_eq_none.2 habsent, before, after, hsplit, fun k hk => ?_⟩, hname⟩
    obtain ⟨text, htext⟩ := hbefore k hk
    rw [htext]
    rfl

/-- A complete environment that is not read has a fault of the settings. -/
theorem read_of_complete (h : Complete env) :
    (∃ s, read env = .ok s) ∨ ∃ reason, read env = .error (.settings reason) := by
  unfold read
  rw [missingKey?_eq_none_iff.2 h]
  cases readDraft env >>= Draft.check with
  | ok s => exact .inl ⟨_, rfl⟩
  | error reason => exact .inr ⟨reason, rfl⟩

structure Acceptance (env : Environment) : Prop where
  /-- A required key that is absent is told before all else: the first one, whatever the other texts are. -/
  missing : ∀ name, read env = .error (.missingKey name) ↔
    ∃ before key after, SettingsKey.required = before ++ key :: after ∧ name = key.name ∧ env.text? key = none ∧
      ∀ k ∈ before, ∃ text, env.text? k = some text
  accepted : Complete env → ((∃ s, read env = .ok s) ↔ Acceptable env)
  refused : Complete env → ¬ Acceptable env → ∃ reason, read env = .error (.settings reason)
  written : ∀ s, read env = .ok s → Written env s
  /-- Nothing but the texts under the keys plays a part. -/
  unread : ∀ env' : Environment, (∀ key, env'.text? key = env.text? key) → read env' = read env

/-- **Acceptance.** -/
theorem read_acceptance (env : Environment) : Acceptance env where
  missing _ := read_missing_iff
  accepted hcomplete := ⟨fun ⟨_, h⟩ => acceptable_of_read h, exists_read_of_acceptable hcomplete⟩
  refused hcomplete hnot := (read_of_complete hcomplete).resolve_left fun ⟨_, h⟩ => hnot (acceptable_of_read h)
  written _ := written_of_read
  unread _ := read_congr

end Settings
end OracleIntake
