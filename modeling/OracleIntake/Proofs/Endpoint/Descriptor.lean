import OracleIntake.Endpoint.Target
import OracleIntake.Proofs.Text.Separated

/-!
# Connect descriptors read back

A descriptor is the address of an endpoint, followed by its options. The protocol ends at the first colon, the host
at the next one, the port at the first slash and the service at the question mark of the options, which may be
missing. With the same protocol, the same options are there.

* `options_eq_iff`, `optionText_inj`: what the options tell.
* `infix_optionText_iff`: who has an option on the server's identity.
* `descriptor_inj`: the parts of an address, and the options.
* `descriptor_tells`: the endpoint that a descriptor stands for.
-/
namespace OracleIntake.Target
variable {t u : Target}

/-- The descriptor without options: `protocol://host:port/service`. -/
def address (t : Target) : String :=
  t.transport.protocol ++ "://" ++ t.host ++ ":" ++ toString t.port.toNat ++ "/" ++ t.service

/-- The options, each behind its separator. -/
def optionText (t : Target) : String := if t.options.isEmpty then "" else "?" ++ "&".intercalate t.options

theorem descriptor_eq (t : Target) : t.descriptor = t.address ++ t.optionText := rfl

/-- The separators after the host and after the service do not occur in them. -/
structure Legible (t : Target) : Prop where
  host : ':' ∉ t.host.toList
  service : '?' ∉ t.service.toList

/-- Neither target has a connect timeout, or both have one of the same number of seconds, where a shorter one counts
as one second. -/
def SameTimeout (t u : Target) : Prop :=
  t.timeout.isZero = true ∧ u.timeout.isZero = true ∨
    t.timeout.isZero = false ∧ u.timeout.isZero = false ∧ max 1 t.timeout.seconds = max 1 u.timeout.seconds

/-- The targets differ in the credentials at most, in a setting that their transport does not use, and in what their
timeouts leave beyond whole seconds. -/
structure SameEndpoint (t u : Target) : Prop where
  transport : t.transport = u.transport
  host : t.host = u.host
  port : t.port = u.port
  service : t.service = u.service
  verify : t.transport = .secure → t.verify = u.verify
  timeout : SameTimeout t u

/-! ## Options -/

theorem verifyOption?_eq_iff (h : t.transport = u.transport) :
    t.verifyOption? = u.verifyOption? ↔ (t.transport = .secure → t.verify = u.verify) := by
  rw [verifyOption?, verifyOption?, ← h]
  cases t.transport
  · cases t.verify <;> cases u.verify <;> decide
  · simp [Transport.isSecure]

theorem timeoutOption?_eq_iff : t.timeoutOption? = u.timeoutOption? ↔ SameTimeout t u := by
  rw [timeoutOption?, timeoutOption?, SameTimeout]
  cases t.timeout.isZero <;> cases u.timeout.isZero <;> simp [← String.toList_inj, Text.toDigits_inj]

theorem eq_of_verifyOption? {o : String} (h : t.verifyOption? = some o) :
    o = "ssl_server_dn_match=on" ∨ o = "ssl_server_dn_match=off" := by
  rw [verifyOption?] at h
  split at h <;> cases h
  cases t.verify
  · exact .inr rfl
  · exact .inl rfl

theorem eq_of_timeoutOption? {o : String} (h : t.timeoutOption? = some o) :
    ∃ n : Nat, o.toList = "connect_timeout=".toList ++ Nat.toDigits 10 n := by
  rw [timeoutOption?] at h
  split at h <;> cases h
  exact ⟨max 1 t.timeout.seconds, by rw [String.toList_append, Text.toList_toString]⟩

/-- Over the same transport, the options tell their settings. -/
theorem options_eq_iff (h : t.transport = u.transport) :
    t.options = u.options ↔ (t.transport = .secure → t.verify = u.verify) ∧ SameTimeout t u := by
  rw [← verifyOption?_eq_iff h, ← timeoutOption?_eq_iff]
  refine ⟨fun hoptions => ?_, fun ⟨hverify, htimeout⟩ => by rw [options, options, hverify, htimeout]⟩
  have hlength : t.verifyOption?.toList.length = u.verifyOption?.toList.length := by
    rw [verifyOption?, verifyOption?, h]
    cases u.transport <;> rfl
  have hinj : ∀ {o p : Option String}, o.toList = p.toList → o = p := fun {o p} h => by
    rw [← Option.head?_toList (o := o), h, Option.head?_toList]
  obtain ⟨hverify, htimeout⟩ := List.append_inj hoptions hlength
  exact ⟨hinj hverify, hinj htimeout⟩

/-- An option has a name, and no ampersand in it. -/
theorem mem_options {o : String} (h : o ∈ t.options) : o.toList ≠ [] ∧ '&' ∉ o.toList := by
  rcases List.mem_append.1 h with hverify | htimeout
  · rcases eq_of_verifyOption? (Option.mem_toList.1 hverify) with rfl | rfl <;> decide
  · obtain ⟨n, hn⟩ := eq_of_timeoutOption? (Option.mem_toList.1 htimeout)
    rw [hn]
    exact ⟨nofun, fun hmem => (List.mem_append.1 hmem).elim (by decide) (Text.not_mem_toDigits rfl n)⟩

theorem toList_optionText (t : Target) : t.optionText.toList =
    if t.options.isEmpty then [] else '?' :: ([] ++ ['&']).intercalate (t.options.map String.toList) := by
  rw [optionText]
  split
  · rfl
  · rw [String.toList_append, String.toList_intercalate]
    rfl

theorem head?_optionText (t : Target) : ∀ c ∈ t.optionText.toList.head?, c = '?' := by
  rw [toList_optionText]
  split <;> simp

theorem optionText_inj : t.optionText = u.optionText ↔ t.options = u.options := by
  refine ⟨fun h => ?_, fun h => by rw [optionText, optionText, h]⟩
  rw [← String.toList_inj, toList_optionText, toList_optionText] at h
  have hparts : ∀ (v : Target), ∀ s ∈ v.options.map String.toList, s ≠ [] ∧ '&' ∉ s := by
    intro v s hs
    obtain ⟨o, ho, rfl⟩ := List.mem_map.1 hs
    exact mem_options ho
  split at h <;> split at h
  · next ht hu => rw [List.isEmpty_iff.1 ht, List.isEmpty_iff.1 hu]
  · cases h
  · cases h
  · rw [List.cons.injEq, Text.intercalate_inj List.not_mem_nil (hparts t) (hparts u)] at h
    exact (List.map_inj_right fun _ _ => String.toList_inj.1).1 h.2

theorem options_of_secure (h : t.transport = .secure) :
    t.options = ("ssl_server_dn_match=" ++ (if t.verify then "on" else "off")) :: t.timeoutOption?.toList := by
  rw [options, verifyOption?, h]
  rfl

theorem options_of_plain (h : t.transport = .plain) : t.options = t.timeoutOption?.toList := by
  rw [options, verifyOption?, h]
  rfl

/-- The name of the option on the timeout has no `s` in it. -/
theorem not_mem_optionText (h : t.transport = .plain) : 's' ∉ t.optionText.toList := by
  rw [toList_optionText, options_of_plain h]
  cases htimeout : t.timeoutOption? with
  | none => decide
  | some o =>
    obtain ⟨n, hn⟩ := eq_of_timeoutOption? htimeout
    simp [hn, List.intercalate_singleton, Text.not_mem_toDigits (d := 's') rfl n]

/-- A secure target says whether the identity is verified, and a plain one does not. -/
theorem infix_optionText_iff (t : Target) :
    "ssl_server_dn_match".toList <:+: t.optionText.toList ↔ t.transport = .secure := by
  cases h : t.transport with
  | secure =>
    refine iff_of_true ?_ rfl
    have hname : "ssl_server_dn_match=".toList = "ssl_server_dn_match".toList ++ ['='] := by decide
    rw [toList_optionText, options_of_secure h, List.isEmpty_cons, if_neg Bool.false_ne_true, List.map_cons,
      Text.intercalate_cons, String.toList_append, hname, List.append_assoc, List.append_assoc]
    exact (List.prefix_append _ _).isInfix.trans (List.suffix_cons _ _).isInfix
  | plain =>
    refine iff_of_false (fun hname => ?_) nofun
    exact not_mem_optionText h (hname.subset (by decide))

/-! ## Descriptors -/

theorem toList_descriptor (t : Target) : t.descriptor.toList =
    t.transport.protocol.toList ++ ':' :: ("//".toList ++ t.host.toList ++
      ':' :: (Nat.toDigits 10 t.port.toNat ++ '/' :: (t.service.toList ++ t.optionText.toList))) := by
  simp [descriptor_eq, address]

theorem protocol_inj {a b : Transport} : a.protocol.toList = b.protocol.toList ↔ a = b := by
  cases a <;> cases b <;> decide

/-- The address that a descriptor begins with, and the options. -/
theorem descriptor_inj (ht : t.Legible) (hu : u.Legible) : t.descriptor = u.descriptor ↔
    t.transport = u.transport ∧ t.host = u.host ∧ t.port = u.port ∧ t.service = u.service ∧
      t.optionText = u.optionText := by
  have hprotocol : ∀ a : Transport, ':' ∉ a.protocol.toList := fun a => by cases a <;> decide
  have hhost : ∀ {v : Target}, v.Legible → ':' ∉ "//".toList ++ v.host.toList := fun hv hmem =>
    (List.mem_append.1 hmem).elim (by decide) hv.host
  rw [← String.toList_inj, toList_descriptor, toList_descriptor, Text.append_cons_inj (hprotocol _) (hprotocol _),
    Text.append_cons_inj (hhost ht) (hhost hu),
    Text.append_cons_inj (Text.not_mem_toDigits rfl _) (Text.not_mem_toDigits rfl _), protocol_inj,
    List.append_right_inj, String.toList_inj, Text.toDigits_inj, UInt16.toNat_inj,
    Text.append_inj_of_head ht.service hu.service t.head?_optionText u.head?_optionText, String.toList_inj,
    String.toList_inj]

/-! ## Main result -/

/-- A descriptor stands for one endpoint only, for hosts and services that the separators do not occur in; and whatever
they are, the options behind the address say whether the identity is verified exactly if the transport is secure. -/
theorem descriptor_tells (t : Target) :
    (∀ u : Target, t.Legible → u.Legible → (t.descriptor = u.descriptor ↔ SameEndpoint t u)) ∧
      t.descriptor = t.address ++ t.optionText ∧
      ("ssl_server_dn_match".toList <:+: t.optionText.toList ↔ t.transport = .secure) := by
  refine ⟨fun u ht hu => ?_, t.descriptor_eq, t.infix_optionText_iff⟩
  rw [descriptor_inj ht hu]
  constructor
  · rintro ⟨htransport, hhost, hport, hservice, hoptions⟩
    obtain ⟨hverify, htimeout⟩ := (options_eq_iff htransport).1 (optionText_inj.1 hoptions)
    exact ⟨htransport, hhost, hport, hservice, hverify, htimeout⟩
  · intro h
    have hoptions := (options_eq_iff h.transport).2 ⟨h.verify, h.timeout⟩
    exact ⟨h.transport, h.host, h.port, h.service, optionText_inj.2 hoptions⟩

/-- A plain target at the usual port. -/
def plainAt (service : String) (timeout : Duration) : Target :=
  ⟨"db", 1521, service, "loader", ⟨"s3cret"⟩, .plain, true, timeout⟩

/-- A service that looks like options is not taken for them. -/
theorem descriptor_tells_service_like_options :
    (plainAt "WMS&ssl_server_dn_match=on&connect_timeout=5" .zero).Legible ∧ (plainAt "WMS" (.ofSeconds 5)).Legible ∧
      (plainAt "WMS&ssl_server_dn_match=on&connect_timeout=5" .zero).descriptor ≠
        (plainAt "WMS" (.ofSeconds 5)).descriptor ∧
      ¬ "ssl_server_dn_match".toList <:+:
        (plainAt "WMS&ssl_server_dn_match=on&connect_timeout=5" .zero).optionText.toList := by
  have ht : (plainAt "WMS&ssl_server_dn_match=on&connect_timeout=5" .zero).Legible := ⟨by decide, by decide⟩
  have hu : (plainAt "WMS" (.ofSeconds 5)).Legible := ⟨by decide, by decide⟩
  obtain ⟨hsame, -, hoption⟩ := descriptor_tells (plainAt "WMS&ssl_server_dn_match=on&connect_timeout=5" .zero)
  exact ⟨ht, hu, fun h => absurd ((hsame _ ht hu).1 h).service (by decide), fun h => nomatch hoption.1 h⟩

end OracleIntake.Target
