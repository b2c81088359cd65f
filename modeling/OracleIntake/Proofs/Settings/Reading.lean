import Mathlib.Data.List.Nodup
import OracleIntake.Settings.Environment

/-!
# What reading settings depends on

Settings are read from the texts under the thirteen keys and from nothing else in an environment. The password
is carried along: nothing but its being blank decides anything.

* `text?_environment`: what is written under a key.
* `readDraft_eq_ok_iff`, `check_eq_ok_iff`: the draft part by part, and its check condition by condition.
* `read_ok`, `read_of_check`: settings are read of a draft that passes the check.
* `read_withPassword`: the same texts with another password give the same settings with another password, or
  are refused for the same reason.
* `read_congr`: the same texts give the same settings.
-/
namespace OracleIntake

namespace SettingsKey

theorem name_injective : Function.Injective name := fun a b h =>
  List.inj_on_of_nodup_map (f := name) (l := ascending) (by decide) (mem_ascending a) (mem_ascending b) h

end SettingsKey

namespace Bindings

theorem value?_filterMap (text : SettingsKey → Option String) (key : SettingsKey) (keys : List SettingsKey) :
    value? key.name (keys.filterMap fun k => (text k).map fun t => (k.name, t)) =
      if key ∈ keys then text key else none := by
  induction keys with
  | nil => rfl
  | cons k keys ih =>
    by_cases hk : key = k
    · subst hk
      cases ht : text key with
      | none => simp [ht, ih]
      | some t => by_cases hmem : key ∈ keys <;> simp [ht, ih, hmem, value?_cons]
    · have hname : k.name ≠ key.name := fun h => hk (SettingsKey.name_injective h).symm
      cases ht : text k <;> simp [ht, ih, hk, hname, value?_cons]

end Bindings

theorem SettingsKey.lookup_filterMap (text : SettingsKey → Option String) (key : SettingsKey)
    (keys : List SettingsKey) :
    (keys.filterMap fun k => (text k).map fun t => (k, t)).lookup key =
      if key ∈ keys then text key else none := by
  induction keys with
  | nil => rfl
  | cons k keys ih =>
    by_cases hk : key = k
    · subst hk
      cases ht : text key <;> simp [ht, ih]
    · have hkey : (key == k) = false := beq_false_of_ne hk
      cases ht : text k <;> simp [ht, ih, hk, hkey, List.lookup_cons]

def Target.withPassword (t : Target) (password : Password) : Target := { t with password }

namespace Settings
variable {env env' : Environment} {s : Settings} {d : Draft}

theorem text?_environment (s : Settings) (key : SettingsKey) : s.environment.text? key = s.written? key := by
  rw [Environment.text?, environment, Bindings.value?_filterMap, if_pos key.mem_ascending]

theorem lookup_recordedTexts (env : Environment) (key : SettingsKey) :
    (recordedTexts env).lookup key = if key = .password then none else env.text? key := by
  have hrecorded : recordedTexts env = SettingsKey.ascending.filterMap fun k =>
      (if k = .password then none else env.text? k).map fun t => (k, t) := by
    unfold recordedTexts
    congr 1
    funext k
    split <;> rfl
  rw [hrecorded, SettingsKey.lookup_filterMap, if_pos key.mem_ascending]

theorem bind_eq_ok {ε α β : Type} {x : Except ε α} {f : α → Except ε β} {b : β} :
    (x >>= f) = .ok b ↔ ∃ a, x = .ok a ∧ f a = .ok b := by
  cases x with
  | error e => exact ⟨nofun, fun ⟨a, ha, _⟩ => nomatch ha⟩
  | ok a => exact ⟨fun h => ⟨a, rfl, h⟩, fun ⟨_, rfl, h⟩ => h⟩

theorem check_eq_ok_iff : d.check = .ok s ↔
    d.blank? = none ∧ 0 ≤ d.retries ∧ d.retries ≤ RetryPolicy.maxCount ∧ d.port ≠ 0 ∧ s = {
      target := d.target
      retry := { retries := d.retries.toNat, delay := d.delay, backoff := d.backoff }
      fallbackPort := d.fallbackPort.filter (· ≠ 0) } := by
  unfold Draft.check
  cases hblank : d.blank? with
  | some field => simp
  | none =>
    by_cases hnegative : d.retries < 0
    · simp [hnegative, Int.not_le.2 hnegative]
    by_cases hmany : (RetryPolicy.maxCount : Int) < d.retries
    · simp [hnegative, hmany, Int.not_le.2 hmany]
    by_cases hport : d.port = 0
    · simp [hnegative, hmany, hport]
    simp only [if_neg hnegative, if_neg hmany, if_neg hport, Except.ok.injEq]
    exact ⟨fun h => ⟨trivial, Int.not_lt.1 hnegative, Int.not_lt.1 hmany, hport, h.symm⟩, fun h => h.2.2.2.2.symm⟩

theorem Draft.check_ok (h : d.check = .ok s) :
    d.blank? = none ∧ s = {
      target := d.target
      retry := { retries := d.retries.toNat, delay := d.delay, backoff := d.backoff }
      fallbackPort := d.fallbackPort.filter (· ≠ 0) } := by
  obtain ⟨hblank, -, -, -, hs⟩ := check_eq_ok_iff.1 h
  exact ⟨hblank, hs⟩

theorem blank?_eq_none_iff : d.blank? = none ↔
    Text.isBlankText d.host = false ∧ Text.isBlankText d.service = false ∧ Text.isBlankText d.username = false ∧
      Text.isBlankText d.password = false := by
  simp [Draft.blank?, List.find?_eq_none]

theorem readDraft_eq_ok_iff : readDraft env = .ok d ↔
    readPort .port (env.text .port) = .ok d.port ∧
    readTransport .protocol (env.text .protocol) = .ok d.transport ∧
    readSwitch .verifyIdentity (env.text .verifyIdentity) = .ok d.verify ∧
    readSeconds .connectTimeout (env.text .connectTimeout) = .ok d.timeout ∧
    readInteger .retryCount (env.text .retryCount) = .ok d.retries ∧
    readSeconds .retryDelay (env.text .retryDelay) = .ok d.delay ∧
    readFallbackPort env = .ok d.fallbackPort ∧
    readBackoff env d.delay = .ok d.backoff ∧
    d.host = env.text .host ∧ d.service = env.text .serviceName ∧ d.username = env.text .username ∧
    d.password = (env.text? .password).getD "" := by
  simp only [readDraft, bind_eq_ok]
  constructor
  · rintro ⟨port, hport, transport, htransport, verify, hverify, timeout, htimeout, retries, hretries, delay, hdelay,
      fallbackPort, hfallback, backoff, hbackoff, hd⟩
    cases hd
    exact ⟨hport, htransport, hverify, htimeout, hretries, hdelay, hfallback, hbackoff, rfl, rfl, rfl, rfl⟩
  · rintro ⟨hport, htransport, hverify, htimeout, hretries, hdelay, hfallback, hbackoff, hhost, hservice, husername,
      hpassword⟩
    refine ⟨_, hport, _, htransport, _, hverify, _, htimeout, _, hretries, _, hdelay, _, hfallback, _, hbackoff, ?_⟩
    rw [← hhost, ← hservice, ← husername, ← hpassword]
    rfl

theorem readDraft_ok (h : readDraft env = .ok d) :
    d.password = (env.text? .password).getD "" ∧ readFallbackPort env = .ok d.fallbackPort ∧
      readBackoff env d.delay = .ok d.backoff := by
  obtain ⟨-, -, -, -, -, -, hfallback, hbackoff, -, -, -, hpassword⟩ := readDraft_eq_ok_iff.1 h
  exact ⟨hpassword, hfallback, hbackoff⟩

theorem read_ok (h : read env = .ok s) :
    missingKey? env = none ∧ s.recorded = recordedTexts env ∧
      ∃ d, readDraft env = .ok d ∧ d.check = .ok { s with recorded := [] } := by
  unfold read at h
  split at h
  · cases h
  · next hmissing =>
    split at h
    · next settings hsettings =>
      cases h
      obtain ⟨d, hd, hcheck⟩ := bind_eq_ok.1 hsettings
      obtain ⟨-, rfl⟩ := Draft.check_ok hcheck
      exact ⟨hmissing, rfl, d, hd, hcheck⟩
    · cases h

/-- Settings are read of a draft that passes the check, and then the texts are recorded. -/
theorem read_of_check (hmissing : missingKey? env = none) (hd : readDraft env = .ok d) (hcheck : d.check = .ok s) :
    read env = .ok { s with recorded := recordedTexts env } := by
  rw [read, hmissing]
  simp only [bind, Except.bind, hd, hcheck]

theorem missingKey?_eq_none_iff :
    missingKey? env = none ↔ ∀ key ∈ SettingsKey.required, ∃ text, env.text? key = some text := by
  simp [missingKey?, List.find?_eq_none, Option.ne_none_iff_exists']

/-- The password is the text under its key as it is, and it is not blank. -/
theorem password_of_read (h : read env = .ok s) :
    env.text? .password = some s.target.password.clear ∧
      Text.isBlankText s.target.password.clear = false := by
  obtain ⟨hmissing, -, d, hd, hcheck⟩ := read_ok h
  obtain ⟨text, htext⟩ := missingKey?_eq_none_iff.1 hmissing .password (by decide)
  obtain ⟨hblank, hs⟩ := Draft.check_ok hcheck
  obtain ⟨hpassword, -, -⟩ := readDraft_ok hd
  have hclear : s.target.password.clear = d.password :=
    congrArg (fun s : Settings => s.target.password.clear) hs
  rw [hclear]
  exact ⟨by rw [hpassword, htext]; rfl, (blank?_eq_none_iff.1 hblank).2.2.2⟩

theorem readBackoff_of_read (h : read env = .ok s) : readBackoff env s.retry.delay = .ok s.retry.backoff := by
  obtain ⟨-, -, d, hd, hcheck⟩ := read_ok h
  have hretry : s.retry = ⟨d.retries.toNat, d.delay, d.backoff⟩ := congrArg retry (Draft.check_ok hcheck).2
  rw [hretry]
  exact (readDraft_ok hd).2.2

/-! ## Another password -/

def Draft.withPassword (d : Draft) (password : String) : Draft := { d with password }

def withPassword (s : Settings) (p : Password) : Settings := { s with target := s.target.withPassword p }

/-- Only a blank password is told from the others. -/
theorem Draft.check_withPassword {d : Draft} {password : String} (h : Text.isBlankText d.password = false)
    (h' : Text.isBlankText password = false) :
    (d.withPassword password).check = (Settings.withPassword · ⟨password⟩) <$> d.check := by
  have hblank : (d.withPassword password).blank? = d.blank? := by
    simp [blank?, Draft.withPassword, List.find?_cons, h, h']
  unfold check
  rw [hblank]
  cases d.blank? with
  | some field => rfl
  | none =>
    simp only [apply_ite ((Settings.withPassword · ⟨password⟩) <$> ·)]
    rfl

/-- The texts under all keys but one say the same. -/
def AgreeExcept (key : SettingsKey) (env env' : Environment) : Prop :=
  ∀ k ≠ key, env'.text? k = env.text? k

section
variable {hole key : SettingsKey} (h : AgreeExcept hole env env')

include h

theorem text_of_agree (hkey : key ≠ hole) : env'.text key = env.text key := by
  rw [Environment.text, Environment.text, h key hkey]

theorem optional?_of_agree (hkey : key ≠ hole) : env'.optional? key = env.optional? key := by
  rw [Environment.optional?, Environment.optional?, h key hkey]

theorem readFallbackPort_of_agree (hhole : .fallbackPort ≠ hole) : readFallbackPort env' = readFallbackPort env := by
  unfold readFallbackPort
  rw [optional?_of_agree h hhole]

end

section
variable (h : AgreeExcept .password env env')

include h

theorem readBackoff_of_agree (delay : Duration) : readBackoff env' delay = readBackoff env delay := by
  unfold readBackoff readMaxDelay
  rw [optional?_of_agree h (by decide), optional?_of_agree h (by decide)]

theorem readDraft_of_agree :
    readDraft env' = (Draft.withPassword · ((env'.text? .password).getD "")) <$> readDraft env := by
  simp only [readDraft, readBackoff_of_agree h, readFallbackPort_of_agree h (by decide), text_of_agree h, ne_eq,
    reduceCtorEq, not_false_eq_true, map_bind, map_pure]
  rfl

theorem recordedTexts_of_agree : recordedTexts env' = recordedTexts env := by
  unfold recordedTexts
  congr 1
  funext key
  split
  · rfl
  · next hkey => rw [h key hkey]

/-- **Reading with another password.** -/
theorem read_withPassword {p p' : String} (hp : env.text? .password = some p)
    (hp' : env'.text? .password = some p') (hblank : Text.isBlankText p = false)
    (hblank' : Text.isBlankText p' = false) :
    read env' = (withPassword · ⟨p'⟩) <$> read env := by
  -- a missing key is told before anything is read, and the password is missing in neither
  have hmissing : missingKey? env' = missingKey? env := by
    unfold missingKey?
    congr 1
    funext key
    by_cases hkey : key = .password
    · rw [hkey, hp, hp']
      rfl
    · rw [h key hkey]
  have hchecked : readDraft env' >>= Draft.check =
      (withPassword · ⟨p'⟩) <$> (readDraft env >>= Draft.check) := by
    rw [readDraft_of_agree h, hp']
    cases hd : readDraft env with
    | error reason => rfl
    | ok d =>
      have hclear : d.password = p := by
        rw [(readDraft_ok hd).1, hp]
        rfl
      exact Draft.check_withPassword (hclear ▸ hblank) hblank'
  unfold read
  rw [hmissing, hchecked, recordedTexts_of_agree h]
  cases missingKey? env with
  | some key => rfl
  | none => cases readDraft env >>= Draft.check <;> rfl

end

/-! ## Equal texts -/

/-- **Only the texts under the keys are read.** -/
theorem read_congr (h : ∀ key, env'.text? key = env.text? key) : read env' = read env := by
  have hdraft : readDraft env' = readDraft env := by
    simp only [readDraft, readFallbackPort, readBackoff, readMaxDelay, Environment.text, Environment.optional?, h]
  simp only [read, missingKey?, recordedTexts, hdraft, h]

end Settings
end OracleIntake
