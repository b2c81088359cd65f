import OracleIntake.Proofs.Failure.Telling
import OracleIntake.Proofs.Text.Spelling

/-!
# Messages within messages

Drivers put a message into another one. What a message tells by its markers, every message around it tells too, or
something stronger: a part of a text has the same lower-case form as in the whole, but for the form of sigma at the
end of a word, and no marker has a sigma in it.

* `map_foldSigma_lower`: the lower-case form character by character, with one form of sigma.
* `infix_lower_append`: a word in the lower-case form of a part of a text is in that of the whole.
* `lt_rank_ofMessage_iff`: the markers that rank higher than a number.
* `ofMessage_stable`: the kind of a message under wrapping and under a change of case.
-/
namespace OracleIntake

/-! ## Lower case, part by part -/

namespace Text
variable {w s : List Char}

/-- The character, with one form of the small sigma. -/
def foldSigma (c : Char) : Char := if c = 'ς' then 'σ' else c

/-- The lower-case form of a character, with one form of the small sigma. -/
def lowerFolded (c : Char) : List Char := if c = 'Σ' then ['σ'] else (lowerChar c).map foldSigma

/-- With one form of sigma, the lower-case form does not depend on what stands around a character. -/
theorem map_foldSigma_lowerAfter (before s : List Char) :
    (lowerAfter before s).map foldSigma = s.flatMap lowerFolded := by
  induction s generalizing before with
  | nil => rfl
  | cons c s ih =>
    rw [lowerAfter, List.map_append, ih, List.flatMap_cons, lowerFolded]
    split
    · rw [lowerSigma]
      split <;> rfl
    · rfl

theorem map_foldSigma_lower (s : List Char) : (lower s).map foldSigma = s.flatMap lowerFolded :=
  map_foldSigma_lowerAfter [] s

theorem foldSigma_eq_iff {c d : Char} (hd : d ≠ 'σ') (hd' : d ≠ 'ς') : foldSigma c = d ↔ c = d := by
  rw [foldSigma]
  split
  · next hc => exact iff_of_false hd.symm (hc ▸ hd'.symm)
  · rfl

theorem map_foldSigma_eq_iff (hw : 'σ' ∉ w ∧ 'ς' ∉ w) : s.map foldSigma = w ↔ s = w := by
  induction s generalizing w with
  | nil => rfl
  | cons c s ih =>
    cases w with
    | nil => simp
    | cons d w =>
      simp only [List.mem_cons, not_or] at hw
      obtain ⟨⟨hd, hs⟩, hd', hs'⟩ := hw
      rw [List.map_cons, List.cons_eq_cons, List.cons_eq_cons, ih ⟨hs, hs'⟩,
        foldSigma_eq_iff (Ne.symm hd) (Ne.symm hd')]

/-- A word without sigma occurs in the lower-case form of a text exactly if it does with one form of sigma. -/
theorem infix_lower_iff (hw : 'σ' ∉ w ∧ 'ς' ∉ w) : w <:+: lower s ↔ w <:+: s.flatMap lowerFolded := by
  rw [← map_foldSigma_lower]
  constructor
  · intro h
    have hmap := h.map foldSigma
    rwa [(map_foldSigma_eq_iff hw).2 rfl] at hmap
  · rintro ⟨l, r, h⟩
    obtain ⟨lw, r', hlower, hlw, -⟩ := List.map_eq_append_iff.1 h.symm
    obtain ⟨l', w', hlw', -, hw'⟩ := List.map_eq_append_iff.1 hlw
    exact ⟨l', r', by rw [hlower, hlw', (map_foldSigma_eq_iff hw).1 hw']⟩

/-- What is found in a part of a text is found in the whole. -/
theorem infix_lower_append (hw : 'σ' ∉ w ∧ 'ς' ∉ w) (h : w <:+: lower s) (a b : List Char) :
    w <:+: lower (a ++ s ++ b) := by
  rw [infix_lower_iff hw] at h ⊢
  rw [List.flatMap_append, List.flatMap_append]
  exact h.trans (List.infix_append _ _ _)

end Text

/-! ## Kinds -/

namespace FailureKind
variable {message : String}

/-- How much a kind says, of the kinds that markers tell. -/
def rank : FailureKind → Nat
  | sessionLost => 4
  | authentication => 3
  | transport => 2
  | listener => 1
  | statement | unclassified => 0

/-- The lists of markers, with the kinds that they tell. -/
def markerTables : List (List String × FailureKind) :=
  [(sessionMarkers, sessionLost), (authenticationMarkers, authentication), (transportMarkers, transport),
    (listenerMarkers, listener)]

/-- The highest kind that markers tell counts. -/
theorem lt_rank_ofMessage_iff {n : Nat} : n < (ofMessage message).rank ↔
    ∃ table ∈ markerTables, Says table.1 message ∧ n < table.2.rank := by
  simp only [markerTables, List.mem_cons, List.not_mem_nil, or_false, exists_eq_or_imp, exists_eq_left, ← marked_iff,
    ofMessage]
  cases marked sessionMarkers (Text.lower message.toList) <;>
    cases marked authenticationMarkers (Text.lower message.toList) <;>
    cases marked transportMarkers (Text.lower message.toList) <;>
    cases marked listenerMarkers (Text.lower message.toList) <;> simp [rank] <;> omega

/-- What a message says, a message around it says too. -/
theorem Says.wrapped {markers : List String} (hmarkers : ∀ marker ∈ markers, 'σ' ∉ marker.toList ∧ 'ς' ∉ marker.toList)
    (h : Says markers message) (a b : String) : Says markers (a ++ message ++ b) := by
  obtain ⟨marker, hmem, hin⟩ := h
  refine ⟨marker, hmem, ?_⟩
  rw [String.toList_append, String.toList_append]
  exact Text.infix_lower_append (hmarkers marker hmem) hin _ _

theorem markerTables_no_sigma :
    ∀ table ∈ markerTables, ∀ marker ∈ table.1, 'σ' ∉ marker.toList ∧ 'ς' ∉ marker.toList := by
  decide +kernel

theorem rank_ofMessage_wrapped (a m b : String) : (ofMessage m).rank ≤ (ofMessage (a ++ m ++ b)).rank := by
  refine Nat.le_of_not_lt fun hlt => ?_
  obtain ⟨table, htable, hsays, hrank⟩ := lt_rank_ofMessage_iff.1 hlt
  have hwrapped := hsays.wrapped (markerTables_no_sigma table htable) a b
  exact Nat.lt_irrefl _ (lt_rank_ofMessage_iff.2 ⟨table, htable, hwrapped, hrank⟩)

theorem ofMessage_recased {m n : String} (h : Text.Recased m n) : ofMessage m = ofMessage n := by
  rw [ofMessage, ofMessage, Text.lower_eq_of_sameLetters h]

theorem ofMessage_ne_statement (m : String) : ofMessage m ≠ .statement := by
  simp only [ofMessage]
  repeat' split
  all_goals decide

/-- A message tells at least what a part of it tells, the case of ASCII letters plays no part, and only the kinds that
`rank` puts in order are told. -/
theorem ofMessage_stable :
    (∀ a m b : String, (ofMessage m).rank ≤ (ofMessage (a ++ m ++ b)).rank) ∧
      (∀ m n : String, Text.Recased m n → ofMessage m = ofMessage n) ∧ ∀ m : String, ofMessage m ≠ .statement :=
  ⟨rank_ofMessage_wrapped, fun _ _ => ofMessage_recased, ofMessage_ne_statement⟩

/-- A part that tells a listener and whose lower-case form is another one in the whole, which tells a broken transport;
and another spelling of the part. -/
theorem ofMessage_stable_final_sigma :
    Text.lowered "ΟΔΟΣ" = "οδος" ∧ Text.lowered ("ΟΔΟΣ" ++ "Α") = "οδοσα" ∧
      ofMessage "LISTENER ΟΔΟΣ" = .listener ∧
      ofMessage ("handshake: " ++ "LISTENER ΟΔΟΣ" ++ "Α") = .transport ∧
      rank .listener ≤ rank .transport ∧
      Text.Recased "LISTENER ΟΔΟΣ" "listener ΟΔΟΣ" ∧ ofMessage "listener ΟΔΟΣ" = .listener := by
  have hrecased : Text.Recased "LISTENER ΟΔΟΣ" "listener ΟΔΟΣ" := by decide
  have hpart : ofMessage "LISTENER ΟΔΟΣ" = .listener := by decide +kernel
  have hwhole : ofMessage ("handshake: " ++ "LISTENER ΟΔΟΣ" ++ "Α") = .transport := by decide +kernel
  obtain ⟨hwrapped, hspelled, -⟩ := ofMessage_stable
  have hrank := hwrapped "handshake: " "LISTENER ΟΔΟΣ" "Α"
  rw [hpart, hwhole] at hrank
  exact ⟨by decide +kernel, by decide +kernel, hpart, hwhole, hrank, hrecased, (hspelled _ _ hrecased) ▸ hpart⟩

end FailureKind
end OracleIntake
