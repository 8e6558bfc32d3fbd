import Highlight.Quote
import Highlight.Proofs.MatchBounds

/-!
# Quote-aware search as a filter of the plain search

`Pattern.plainMatchesFrom` is the succession of matches that the plain search finds, each search
starting where the match before it ended.  The quote-aware search walks the same succession and
answers the matches that start outside quotes:

* `Pattern.findNext_eq_find?`: the first quote-aware match is the first plain one that starts
  outside quotes;
* `Pattern.matchesFrom_eq_filter`: the quote-aware matches are the plain ones that start outside
  quotes, in order, when every search moves on (`Pattern.Advances`);
* `Pattern.plainMatchesFrom_ordered`: the plain matches then lie one after the other.

"Outside quotes" is read on the line's characters (`Subject.betweenQuotes`, the running count of
`"` characters) and agrees with the byte count of `betweenQuotes` at every character boundary
(`Subject.betweenQuotes_byteAt`), since a `"` byte only ever encodes the character `"`.

A pattern built by `withGroup` whose normal form has a known least length never matches the empty
text, so every search moves on (`Pattern.advances_of_withGroup`).  A pattern that matches the
empty text at the offset searched from never moves on: the search from the end of a skipped
candidate is the search that found it (`Pattern.findAt_repeats_of_empty_class`).
-/

namespace Highlight

/-! ## Counting quotes -/

theorem toList_loop (bs : ByteArray) (i : Nat) (r : List UInt8) :
    ByteArray.toList.loop bs i r = r.reverse ++ bs.data.toList.drop i := by
  fun_induction ByteArray.toList.loop bs i r with
  | case1 i r h ih =>
    have hi : i < bs.data.toList.length := by simpa using h
    rw [ih, List.reverse_cons, List.append_assoc, List.drop_eq_getElem_cons hi]
    simp [ByteArray.get!, getElem!_pos bs.data i h]
  | case2 i r h =>
    simp [List.drop_eq_nil_of_le (show bs.data.toList.length ≤ i by simpa using Nat.le_of_not_lt h)]

theorem toList_toUTF8 (s : String) : s.toUTF8.toList = s.toList.flatMap String.utf8EncodeChar := by
  rw [ByteArray.toList, toList_loop, String.toUTF8, ← String.utf8Encode_toList, List.utf8Encode]
  simp

theorem utf8EncodeChar_of_lt {c : Char} (hc : c.toNat < 128) :
    String.utf8EncodeChar c = [UInt8.ofNat c.toNat] := by
  simp [String.utf8EncodeChar, show c.toNat ≤ 127 by omega]

theorem le_toNat_of_mem_utf8EncodeChar {c : Char} (hc : 128 ≤ c.toNat) {b : UInt8}
    (hb : b ∈ String.utf8EncodeChar c) : 128 ≤ b.toNat := by
  simp only [String.utf8EncodeChar, if_neg (show ¬c.val.toNat ≤ 127 by simp; omega)] at hb
  split at hb
  · simp only [List.mem_cons, List.not_mem_nil, or_false] at hb
    rcases hb with rfl | rfl <;> rw [UInt8.toNat_ofNat'] <;> omega
  · split at hb
    · simp only [List.mem_cons, List.not_mem_nil, or_false] at hb
      rcases hb with rfl | rfl | rfl <;> rw [UInt8.toNat_ofNat'] <;> omega
    · simp only [List.mem_cons, List.not_mem_nil, or_false] at hb
      rcases hb with rfl | rfl | rfl | rfl <;> rw [UInt8.toNat_ofNat'] <;> omega

theorem quoteBytes_utf8EncodeChar (c : Char) :
    ((String.utf8EncodeChar c).filter (· == 34)).length = if c = '"' then 1 else 0 := by
  by_cases hc : c.toNat < 128
  · rw [utf8EncodeChar_of_lt hc]
    by_cases hq : c = '"'
    · subst hq
      rfl
    · have hne : UInt8.ofNat c.toNat ≠ 34 := by
        intro h
        have h34 := congrArg UInt8.toNat h
        rw [UInt8.toNat_ofNat'] at h34
        apply hq
        rw [← Char.ofNat_toNat c, show c.toNat = 34 by simpa [Nat.mod_eq_of_lt (show c.toNat < 256 by omega)] using h34]
      simp [hne, hq]
  · have hq : c ≠ '"' := by
      rintro rfl
      exact hc (by decide)
    rw [if_neg hq, List.length_eq_zero_iff, List.filter_eq_nil_iff]
    intro b hmem
    -- every byte of a longer encoding has its top bit set, and the quote's does not
    have hb := le_toNat_of_mem_utf8EncodeChar (by omega) hmem
    intro h
    rw [beq_iff_eq] at h
    subst h
    exact absurd hb (by decide)

theorem take_flatMap_byteOffset :
    ∀ (l : List Char) (a : Nat),
      (l.flatMap String.utf8EncodeChar).take (byteOffset l a) = (l.take a).flatMap String.utf8EncodeChar
  | [], a => by simp [byteOffset]
  | c :: l, 0 => by simp
  | c :: l, a + 1 => by
    rw [byteOffset_cons_succ, List.flatMap_cons, List.take_succ_cons, List.flatMap_cons,
      ← String.length_utf8EncodeChar, List.take_length_add_append, take_flatMap_byteOffset l a]

theorem quoteBytes_flatMap (l : List Char) :
    ((l.flatMap String.utf8EncodeChar).filter (· == 34)).length = l.count '"' := by
  induction l with
  | nil => rfl
  | cons c l ih =>
    rw [List.flatMap_cons, List.filter_append, List.length_append, quoteBytes_utf8EncodeChar, ih,
      List.count_cons]
    by_cases hq : c = '"' <;> simp [hq]; omega

theorem betweenQuotes_byteOffset (text : String) (a : Nat) :
    betweenQuotes text (byteOffset text.toList a) = ((text.toList.take a).count '"' % 2 == 1) := by
  rw [betweenQuotes, toList_toUTF8, take_flatMap_byteOffset, quoteBytes_flatMap]

theorem foldl_quoteCounts (l : List Char) (acc : Array Nat) (k : Nat) (hk : acc.back? = some k) :
    (l.foldl (fun acc c => acc.push (acc.back?.getD 0 + if c == '"' then 1 else 0)) acc).toList =
      acc.toList ++ (List.range l.length).map (fun i => k + (l.take (i + 1)).count '"') := by
  induction l generalizing acc k with
  | nil => simp
  | cons c l ih =>
    rw [List.foldl_cons, ih _ (k + if c == '"' then 1 else 0) (by simp [hk]), List.length_cons,
      List.range_succ_eq_map]
    simp [hk, List.count_cons, Nat.add_assoc, Nat.add_comm]

theorem getD_quoteCountsOf (cs : List Char) (a : Nat) (ha : a ≤ cs.length) :
    (quoteCountsOf cs.toArray).getD a 0 = (cs.take a).count '"' := by
  have h := foldl_quoteCounts cs #[0] 0 rfl
  rw [Array.getD_eq_getD_getElem?, ← Array.getElem?_toList, quoteCountsOf, List.foldl_toArray, h]
  cases a with
  | zero => simp
  | succ a => simp [List.getElem?_range (show a < cs.length by omega)]

namespace Subject

theorem betweenQuotes_byteAt {text : String} {a : Nat} (ha : a ≤ (ofString text).chars.size) :
    (ofString text).betweenQuotes ((ofString text).byteAt a) =
      Highlight.betweenQuotes text ((ofString text).byteAt a) := by
  have hle := byteAt_le_byteLength ha
  have ha' : a ≤ text.toList.length := by simpa using ha
  rw [betweenQuotes, byteLength_ofString, Nat.min_eq_left hle, charIndex_byteAt ha,
    (ofString text).quotes_eq, show (ofString text).chars = text.toList.toArray from rfl,
    getD_quoteCountsOf _ _ ha', byteAt_ofString ha', betweenQuotes_byteOffset]

end Subject

open Regex

namespace Pattern

variable {p : Pattern} {s : Subject}

/-! ## The two searches over any line -/
variable {p : Pattern} {s : Subject}

theorem plainMatchesFrom_of_none {start : Nat} (h : p.findIn s start = none) :
    p.plainMatchesFrom s start = [] := by
  rw [plainMatchesFrom, h]

theorem plainMatchesFrom_of_some {start : Nat} {m : Match} (h : p.findIn s start = some m) :
    p.plainMatchesFrom s start =
      if start < m.whole.2 ∧ m.whole.2 ≤ s.byteLength then m :: p.plainMatchesFrom s m.whole.2
      else [m] := by
  rw [plainMatchesFrom, h]
  simp only [dite_eq_ite]

theorem findNext_eq_find? (p : Pattern) (s : Subject) (start : Nat) :
    p.findNext s start = (p.plainMatchesFrom s start).find? (fun m => !s.betweenQuotes m.whole.1) := by
  fun_induction p.findNext s start with
  | case1 start h => rw [plainMatchesFrom_of_none h, List.find?_nil]
  | case2 start m h hq =>
    rw [plainMatchesFrom_of_some h]
    split <;> simp [hq]
  | case3 start m h hq hg ih =>
    rw [ih, plainMatchesFrom_of_some h, if_pos hg]
    simp [hq]
  | case4 start m h hq hg =>
    rw [plainMatchesFrom_of_some h, if_neg hg, List.find?_singleton]
    simp [hq]

/-- Every search of the line finds a match at or after where it starts, not empty and ending
within the line. -/
def Advances (p : Pattern) (s : Subject) : Prop :=
  ∀ start m, p.findIn s start = some m →
    start ≤ m.whole.1 ∧ m.whole.1 < m.whole.2 ∧ m.whole.2 ≤ s.byteLength

theorem Advances.guard (h : p.Advances s) {start : Nat} {m : Match} (hm : p.findIn s start = some m) :
    start < m.whole.2 ∧ m.whole.2 ≤ s.byteLength := by
  obtain ⟨h₁, h₂, h₃⟩ := h start m hm
  exact ⟨by omega, h₃⟩

theorem plainMatchesFrom_eq (h : p.Advances s) (start : Nat) :
    p.plainMatchesFrom s start =
      match p.findIn s start with
      | none => []
      | some m => m :: p.plainMatchesFrom s m.whole.2 := by
  cases hm : p.findIn s start with
  | none => exact plainMatchesFrom_of_none hm
  | some m => rw [plainMatchesFrom_of_some hm, if_pos (h.guard hm)]

theorem findIn_of_findNext (start : Nat) :
    ∀ m, p.findNext s start = some m → ∃ start', start ≤ start' ∧ p.findIn s start' = some m := by
  fun_induction p.findNext s start with
  | case1 => intro m hm; cases hm
  | case2 start m hf hq =>
    intro m' hm'
    cases hm'
    exact ⟨start, Nat.le_refl _, hf⟩
  | case3 start m hf hq hg ih =>
    intro m' hm'
    obtain ⟨start', hle, hfind⟩ := ih m' hm'
    exact ⟨start', by omega, hfind⟩
  | case4 => intro m hm; cases hm

theorem findNext_spec (h : p.Advances s) (start : Nat) :
    ∀ m, p.findNext s start = some m →
      start ≤ m.whole.1 ∧ m.whole.1 < m.whole.2 ∧ m.whole.2 ≤ s.byteLength := by
  intro m hm
  obtain ⟨start', hle, hfind⟩ := findIn_of_findNext start m hm
  obtain ⟨h₁, h₂, h₃⟩ := h start' m hfind
  exact ⟨by omega, h₂, h₃⟩

theorem matchesFrom_eq (h : p.Advances s) (start : Nat) :
    p.matchesFrom s start =
      match p.findNext s start with
      | none => []
      | some m => m :: p.matchesFrom s m.whole.2 := by
  rw [matchesFrom]
  cases hm : p.findNext s start with
  | none => rfl
  | some m =>
    obtain ⟨h₁, h₂, h₃⟩ := findNext_spec h start m hm
    simp [show start < m.whole.2 by omega, h₃]

theorem matchesFrom_eq_filter (h : p.Advances s) (start : Nat) :
    p.matchesFrom s start =
      (p.plainMatchesFrom s start).filter (fun m => !s.betweenQuotes m.whole.1) := by
  fun_induction p.plainMatchesFrom s start with
  | case1 start hnone =>
    rw [matchesFrom_eq h, findNext_eq_find?, plainMatchesFrom_of_none hnone]
    rfl
  | case2 start m hsome hg ih =>
    -- the candidate is kept when it starts outside quotes; either way the search goes on
    -- from its end
    by_cases hq : s.betweenQuotes m.whole.1 = true
    · have hnext : p.findNext s start = p.findNext s m.whole.2 := by
        rw [findNext_eq_find?, findNext_eq_find?, plainMatchesFrom_of_some hsome, if_pos hg]
        simp [hq]
      rw [matchesFrom_eq h, hnext, ← matchesFrom_eq h, ih]
      simp [hq]
    · have hnext : p.findNext s start = some m := by
        rw [findNext_eq_find?, plainMatchesFrom_of_some hsome, if_pos hg]
        simp [hq]
      rw [matchesFrom_eq h, hnext]
      simp [hq, ih]
  | case3 start m hsome hg => exact absurd (h.guard hsome) hg

theorem mem_plainMatchesFrom {start : Nat} {m : Match} (hm : m ∈ p.plainMatchesFrom s start) :
    ∃ start', p.findIn s start' = some m := by
  fun_induction p.plainMatchesFrom s start with
  | case1 => cases hm
  | case2 start m' hsome hg ih =>
    rcases List.mem_cons.1 hm with rfl | hm
    · exact ⟨start, hsome⟩
    · exact ih hm
  | case3 start m' hsome hg =>
    rw [List.mem_singleton.1 hm]
    exact ⟨start, hsome⟩

/-- **The plain matches lie one after the other.** When every search moves on, each plain match
starts at or after the offset searched from and is not empty, and each ends at or before the
start of every later one. -/
theorem plainMatchesFrom_ordered (h : p.Advances s) (start : Nat) :
    (∀ m ∈ p.plainMatchesFrom s start, start ≤ m.whole.1 ∧ m.whole.1 < m.whole.2) ∧
      (p.plainMatchesFrom s start).Pairwise (fun m m' => m.whole.2 ≤ m'.whole.1) := by
  fun_induction p.plainMatchesFrom s start with
  | case1 => exact ⟨fun _ hm => absurd hm List.not_mem_nil, .nil⟩
  | case2 start m hsome hg ih =>
    obtain ⟨hafter, hpair⟩ := ih
    obtain ⟨h₁, h₂, -⟩ := h start m hsome
    refine ⟨fun m' hm' => ?_, .cons (fun m' hm' => (hafter m' hm').1) hpair⟩
    rcases List.mem_cons.1 hm' with rfl | hm'
    · exact ⟨h₁, h₂⟩
    · obtain ⟨h₃, h₄⟩ := hafter m' hm'
      exact ⟨by omega, h₄⟩
  | case3 start m hsome hg => exact absurd (h.guard hsome) hg

/-! ## The searches over a line -/

theorem advances_of_withGroup {source : String} {g : Nat}
    (hp : withGroup source g = .ok p)
    (hknown : ∀ parsed, parsePattern source = .ok parsed → parsed.tree.minLen.isSome)
    (text : String) : p.Advances (Subject.ofString text) := by
  intro start m hm
  obtain ⟨parsed, hparsed, -⟩ := withGroup_eq_ok hp
  obtain ⟨h₁, -, h₃, -, h₅⟩ := findIn_ofString_bounds (compiled_of_withGroup hp) hm
  refine ⟨h₁, h₅ (regex_nullable_eq_false hp hparsed (hknown parsed hparsed)), ?_⟩
  rw [Subject.byteLength_ofString]
  exact h₃

theorem betweenQuotes_of_mem (hp : p.Compiled) {text : String} {start : Nat} {m : Match}
    (hm : m ∈ p.plainMatchesFrom (Subject.ofString text) start) :
    (Subject.ofString text).betweenQuotes m.whole.1 = betweenQuotes text m.whole.1 := by
  obtain ⟨start', hfind⟩ := mem_plainMatchesFrom hm
  obtain ⟨-, a, b, -, hab, hb, hwhole, -⟩ := findIn_spec hp hfind
  rw [hwhole]
  exact Subject.betweenQuotes_byteAt (Nat.le_trans hab hb)

theorem betweenQuotes_eq_false {text : String} (h : '"' ∉ text.toList) (i : Nat) :
    betweenQuotes text i = false := by
  have hnone : (text.toUTF8.toList.filter (· == 34)).length = 0 := by
    rw [toList_toUTF8, quoteBytes_flatMap]
    exact List.count_eq_zero.2 h
  have hle := ((List.take_sublist i text.toUTF8.toList).filter (· == 34)).length_le
  have hzero : ((text.toUTF8.toList.take i).filter (· == 34)).length = 0 := by omega
  rw [betweenQuotes, hzero]
  rfl

/-- **The quote-aware search is the plain search with the matches inside quotes left out.**  With
a known least length no match is empty, so the plain matches are the successive searches, and the
quote-aware ones are those of them that start outside quotes, in order and apart. -/
theorem quoteAwareMatches_filter_plain {source : String} {g : Nat} {text : String}
    (hp : withGroup source g = .ok p)
    (hknown : ∀ parsed, parsePattern source = .ok parsed → parsed.tree.minLen.isSome) :
    (∀ start, p.plainMatchesFrom (Subject.ofString text) start =
      match p.findAt text start with
      | none => []
      | some m => m :: p.plainMatchesFrom (Subject.ofString text) m.whole.2) ∧
    (∀ start, p.findNext (Subject.ofString text) start =
      (p.plainMatchesFrom (Subject.ofString text) start).find?
        (fun m => !betweenQuotes text m.whole.1)) ∧
    p.quoteAwareMatches (Subject.ofString text) =
      (p.plainMatchesFrom (Subject.ofString text) 0).filter
        (fun m => !betweenQuotes text m.whole.1) ∧
    ('"' ∉ text.toList →
      p.quoteAwareMatches (Subject.ofString text) = p.plainMatchesFrom (Subject.ofString text) 0) ∧
    (p.quoteAwareMatches (Subject.ofString text)).Pairwise (fun m m' => m.whole.2 ≤ m'.whole.1) ∧
    ∀ m ∈ p.quoteAwareMatches (Subject.ofString text),
      betweenQuotes text m.whole.1 = false ∧ m.whole.1 < m.whole.2 := by
  have hadv := advances_of_withGroup hp hknown text
  have hc := compiled_of_withGroup hp
  have hfilter : p.quoteAwareMatches (Subject.ofString text) =
      (p.plainMatchesFrom (Subject.ofString text) 0).filter
        (fun m => !betweenQuotes text m.whole.1) := by
    rw [quoteAwareMatches, matchesFrom_eq_filter hadv]
    exact List.filter_congr fun m hm => by rw [betweenQuotes_of_mem hc hm]
  have hordered := plainMatchesFrom_ordered hadv 0
  refine ⟨plainMatchesFrom_eq hadv, fun start => ?_, hfilter, fun hno => ?_,
    hfilter ▸ hordered.2.filter _, fun m hm => ?_⟩
  · rw [findNext_eq_find?, ← List.head?_filter, ← List.head?_filter]
    exact congrArg List.head? (List.filter_congr fun m hm => by rw [betweenQuotes_of_mem hc hm])
  · rw [hfilter]
    exact List.filter_eq_self.2 fun m _ => by simp [betweenQuotes_eq_false hno]
  · rw [hfilter, List.mem_filter] at hm
    exact ⟨by simpa using hm.2, (hordered.1 m hm.1).2⟩

/-- The searches at a pattern of one or more `a`, on a line with a quoted `a` between two others. -/
theorem quoteAwareMatches_of_plus :
    ∃ p, withGroup "a+" 0 = .ok p ∧
      (∀ parsed, parsePattern "a+" = .ok parsed → parsed.tree.minLen.isSome) ∧
      (∀ start, p.plainMatchesFrom (Subject.ofString "a\"a\"a") start =
        match p.findAt "a\"a\"a" start with
        | none => []
        | some m => m :: p.plainMatchesFrom (Subject.ofString "a\"a\"a") m.whole.2) ∧
      (∀ start, p.findNext (Subject.ofString "a\"a\"a") start =
        (p.plainMatchesFrom (Subject.ofString "a\"a\"a") start).find?
          (fun m => !betweenQuotes "a\"a\"a" m.whole.1)) ∧
      p.quoteAwareMatches (Subject.ofString "a\"a\"a") =
        (p.plainMatchesFrom (Subject.ofString "a\"a\"a") 0).filter
          (fun m => !betweenQuotes "a\"a\"a" m.whole.1) ∧
      ('"' ∉ "a\"a\"a".toList → p.quoteAwareMatches (Subject.ofString "a\"a\"a") =
        p.plainMatchesFrom (Subject.ofString "a\"a\"a") 0) ∧
      (p.quoteAwareMatches (Subject.ofString "a\"a\"a")).Pairwise
        (fun m m' => m.whole.2 ≤ m'.whole.1) ∧
      ∀ m ∈ p.quoteAwareMatches (Subject.ofString "a\"a\"a"),
        betweenQuotes "a\"a\"a" m.whole.1 = false ∧ m.whole.1 < m.whole.2 := by
  have hknown : ∀ parsed, parsePattern "a+" = .ok parsed → parsed.tree.minLen.isSome := by
    intro parsed hparsed
    have hmin : (parsePattern "a+").map (·.tree.minLen) = .ok (some 1) := by cbv
    simp only [hparsed, Except.map, Except.ok.injEq] at hmin
    rw [hmin]
    rfl
  exact ⟨_, withGroup_plus, hknown, quoteAwareMatches_filter_plain withGroup_plus hknown⟩

/-- **A pattern that matches the empty text inside quotes stalls the quote-aware search.** The
search of `ab|\B[^\s\S]*` from offset `3` of `a"ab` finds the empty match at `3`, after one `"`:
it is skipped, and the search resumes at its end, which is the offset it started from. -/
theorem findAt_repeats_of_empty_class :
    ∃ p, withGroup "ab|\\B[^\\s\\S]*" 0 = .ok p ∧
      p.findAt "a\"ab" 3 = some ⟨(3, 3), some (3, 3)⟩ ∧ betweenQuotes "a\"ab" 3 = true := by
  refine ⟨_, withGroup_empty_class, ?_, by decide +kernel⟩
  simp only [findAt, Subject.ofString, String.foldl_eq_foldl_toList]
  decide +kernel

end Pattern

end Highlight
