/-!
# Looking into texts

Occurrence of one text in another, the text after a first occurrence, the two sides of a first separator,
and the lines of a text.

* `cut?_append`, `between?_delimited`: what was put together is taken apart.
* `cut?_eq_none_iff`, `cut?_eq_some_iff`, `between?_eq_some_iff`: what is taken apart was put together so.
* `lines_append`: the first line, but for a carriage return at its end.
-/
namespace OracleIntake.Text

/-- `p` occurs somewhere in the text. -/
def occursIn (p : List Char) : List Char → Bool
  | [] => p.isEmpty
  | c :: s => p.isPrefixOf (c :: s) || occursIn p s

theorem occursIn_iff {p s : List Char} : occursIn p s = true ↔ p <:+: s := by
  induction s with
  | nil => simp [occursIn]
  | cons c s ih => rw [occursIn, Bool.or_eq_true, ih, List.isPrefixOf_iff_prefix, List.infix_cons_iff]

/-- What follows the first occurrence of `p`, if there is one. -/
def after? (p : List Char) : List Char → Option (List Char)
  | [] => if p.isEmpty then some [] else none
  | c :: s => if p.isPrefixOf (c :: s) then some ((c :: s).drop p.length) else after? p s

/-- The two sides of the first `d`, if there is one. -/
def cut? (d : Char) : List Char → Option (List Char × List Char)
  | [] => none
  | c :: s => if c = d then some ([], s) else (cut? d s).map fun (l, r) => (c :: l, r)

/-- The lines of a text that goes on a line begun with `line` (last character first). A line ends with a line
feed, before which one carriage return is dropped, or with the text; an empty last line is none. -/
def linesFrom (line : List Char) : List Char → List (List Char)
  | [] => if line.isEmpty then [] else [line.reverse]
  | c :: s =>
    if c = '\n' then
      (match line with
        | '\r' :: l => l.reverse
        | l => l.reverse) :: linesFrom [] s
    else linesFrom (c :: line) s

def lines (s : List Char) : List (List Char) := linesFrom [] s

/-- The text between two equal delimiters `q`, if it starts and ends with one each. -/
def between? (q : Char) : List Char → Option (List Char)
  | [] => none
  | c :: s => if c = q ∧ s.getLast? = some q then some s.dropLast else none

/-! ## Taking apart what was put together -/

section
variable {l s : List Char} {c d q : Char}

theorem cut?_append (h : d ∉ l) (r : List Char) : cut? d (l ++ d :: r) = some (l, r) := by
  induction l with
  | nil => rw [List.nil_append, cut?, if_pos rfl]
  | cons c l ih =>
    obtain ⟨hc, hl⟩ := not_or.1 (mt List.mem_cons.2 h)
    rw [List.cons_append, cut?, if_neg (Ne.symm hc), ih hl]
    rfl

theorem cut?_eq_none_iff : cut? d s = none ↔ d ∉ s := by
  induction s with
  | nil => simp [cut?]
  | cons c s ih =>
    by_cases hc : c = d
    · simp [cut?, hc]
    · simp [cut?, hc, ih, Ne.symm hc]

theorem cut?_eq_some_iff {r : List Char} : cut? d s = some (l, r) ↔ s = l ++ d :: r ∧ d ∉ l := by
  refine ⟨fun h => ?_, fun ⟨hs, hl⟩ => by rw [hs, cut?_append hl]⟩
  induction s generalizing l with
  | nil => cases h
  | cons c s ih =>
    rw [cut?] at h
    split at h
    · next hc =>
      cases h
      exact ⟨by rw [hc]; rfl, List.not_mem_nil⟩
    · next hc =>
      obtain ⟨⟨l', r'⟩, hcut, heq⟩ := Option.map_eq_some_iff.1 h
      cases heq
      obtain ⟨hs, hl'⟩ := ih hcut
      exact ⟨by rw [hs]; rfl, fun hmem => (List.mem_cons.1 hmem).elim (fun heq => hc heq.symm) hl'⟩

theorem between?_delimited (q : Char) (s : List Char) : between? q (q :: s ++ [q]) = some s := by
  rw [List.cons_append, between?, if_pos ⟨rfl, List.getLast?_concat⟩, List.dropLast_concat]

theorem between?_of_ne (h : c ≠ q) (s : List Char) : between? q (c :: s) = none := by
  rw [between?, if_neg fun hq => h hq.1]

theorem between?_eq_some_iff {u : List Char} : between? q s = some u ↔ s = q :: u ++ [q] := by
  refine ⟨fun h => ?_, fun h => by rw [h, between?_delimited]⟩
  cases s with
  | nil => cases h
  | cons c s =>
    rw [between?] at h
    split at h
    · next hq =>
      cases h
      obtain ⟨u, rfl⟩ := List.getLast?_eq_some_iff.1 hq.2
      rw [hq.1, List.dropLast_concat, List.cons_append]
    · cases h

theorem linesFrom_append (h : '\n' ∉ l) (begun rest : List Char) :
    linesFrom begun (l ++ rest) = linesFrom (l.reverse ++ begun) rest := by
  induction l generalizing begun with
  | nil => rfl
  | cons c l ih =>
    obtain ⟨hc, hl⟩ := not_or.1 (mt List.mem_cons.2 h)
    have hstep : linesFrom begun (c :: (l ++ rest)) = linesFrom (c :: begun) (l ++ rest) := if_neg (Ne.symm hc)
    rw [List.cons_append, hstep, ih hl, List.reverse_cons, List.append_assoc]
    rfl

/-- The first line is what stands before the first line feed, but for a carriage return at its end. -/
theorem lines_append (h : '\n' ∉ l) (rest : List Char) :
    ∃ line, lines (l ++ '\n' :: rest) = line :: lines rest ∧ (l = line ∨ l = line ++ ['\r']) := by
  rw [lines, linesFrom_append h, List.append_nil]
  by_cases hreturn : ∃ line, l.reverse = '\r' :: line
  · obtain ⟨line, hline⟩ := hreturn
    refine ⟨line.reverse, by rw [hline]; rfl, .inr ?_⟩
    rw [← List.reverse_reverse l, hline, List.reverse_cons]
  · refine ⟨l, ?_, .inl rfl⟩
    rw [linesFrom, if_pos rfl, List.reverse_reverse, lines]
    exact fun line hline => hreturn ⟨line, hline⟩

end

end OracleIntake.Text
