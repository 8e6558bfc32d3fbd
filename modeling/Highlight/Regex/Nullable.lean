import Highlight.Regex.Tree

/-!
# Expressions that can match the empty text

`Expr.nullable` says whether an expression has a way through it that reads no character, every
assertion taken to hold; `Tree.nullable` says the same of a normal form.  Neither looks at the
text, so both over-approximate: an expression that is not nullable reads at least one character
wherever it matches.  The least length of a nullable normal form is `0` or unknown
(`Tree.minLen_of_nullable`), which is what lets the pattern check on the normal form speak for
the expression.

Reading a pattern builds an expression and its normal form side by side.  `Expr.Sound` is what
each pair keeps:

* a nullable expression has a nullable normal form;
* no group of the expression is numbered `0`, the number that stands for the whole match.

Every way of combining parts keeps it (`Expr.Sound.concat`, `Expr.Sound.alternation`,
`Expr.Sound.repetition`, `Expr.Sound.capture`).
-/

namespace Highlight.Regex

namespace Expr

/-- Whether the expression can match the empty text, assertions taken to hold. -/
def nullable : Expr → Bool
  | empty | look _ => true
  | set _ => false
  | cat a b => a.nullable && b.nullable
  | alt a b => a.nullable || b.nullable
  | rep lo _ _ r => lo == 0 || r.nullable
  | capture _ r => r.nullable

def hasGroup (n : Nat) : Expr → Bool
  | capture i r => i == n || r.hasGroup n
  | cat a b | alt a b => a.hasGroup n || b.hasGroup n
  | rep _ _ _ r => r.hasGroup n
  | empty | set _ | look _ => false

@[simp] theorem nullable_concat : ∀ rs : List Expr, (concat rs).nullable = rs.all nullable
  | [] => rfl
  | [r] => by simp [concat]
  | r :: s :: rs => by
    show (r.nullable && (concat (s :: rs)).nullable) = _
    rw [nullable_concat (s :: rs)]
    simp

@[simp] theorem nullable_alternation : ∀ rs : List Expr, (alternation rs).nullable = rs.any nullable
  | [] => rfl
  | [r] => by simp [alternation]
  | r :: s :: rs => by
    show (r.nullable || (alternation (s :: rs)).nullable) = _
    rw [nullable_alternation (s :: rs)]
    simp

@[simp] theorem nullable_repetition (lo : Nat) (hi : Option Nat) (greedy : Bool) (r : Expr) :
    (repetition lo hi greedy r).nullable = (lo == 0 || r.nullable) := by
  unfold repetition
  split
  rename_i lo' hi' heq
  -- capping a zero-width body at one round keeps whether no round is needed
  have hlo : (lo' == 0) = (lo == 0) := by
    split at heq <;> obtain ⟨rfl, rfl⟩ := Prod.mk.inj heq <;> cases lo <;> simp
  split
  · rename_i h0
    simp only [Bool.and_eq_true, beq_iff_eq] at h0
    simp [nullable, ← hlo, h0.1]
  · split
    · rename_i h1
      simp only [Bool.and_eq_true, beq_iff_eq] at h1
      simp [← hlo, h1.1]
    · simp [nullable, hlo]

@[simp] theorem hasGroup_concat (n : Nat) :
    ∀ rs : List Expr, (concat rs).hasGroup n = rs.any (hasGroup n)
  | [] => rfl
  | [r] => by simp [concat]
  | r :: s :: rs => by
    show (r.hasGroup n || (concat (s :: rs)).hasGroup n) = _
    rw [hasGroup_concat n (s :: rs)]
    simp

@[simp] theorem hasGroup_alternation (n : Nat) :
    ∀ rs : List Expr, (alternation rs).hasGroup n = rs.any (hasGroup n)
  | [] => rfl
  | [r] => by simp [alternation]
  | r :: s :: rs => by
    show (r.hasGroup n || (alternation (s :: rs)).hasGroup n) = _
    rw [hasGroup_alternation n (s :: rs)]
    simp

theorem hasGroup_repetition {n : Nat} (lo : Nat) (hi : Option Nat) (greedy : Bool) {r : Expr}
    (h : r.hasGroup n = false) : (repetition lo hi greedy r).hasGroup n = false := by
  unfold repetition
  split
  split
  · rfl
  · split
    · exact h
    · exact h

end Expr

namespace Tree

mutual

/-- Whether the normal form can match the empty text, assertions taken to hold. -/
def nullable : Tree → Bool
  | .empty | .look _ => true
  | .literal cs => cs.isEmpty
  | .cls _ _ => false
  | .rep lo _ _ s => lo == 0 || s.nullable
  | .capture _ s => s.nullable
  | .cat xs => nullableAll xs
  | .alt xs => nullableAny xs

def nullableAll : List Tree → Bool
  | [] => true
  | x :: xs => x.nullable && nullableAll xs

def nullableAny : List Tree → Bool
  | [] => false
  | x :: xs => x.nullable || nullableAny xs

end

theorem nullableAll_eq : ∀ xs : List Tree, nullableAll xs = xs.all nullable
  | [] => rfl
  | x :: xs => by simp [nullableAll, nullableAll_eq xs]

theorem nullableAny_eq : ∀ xs : List Tree, nullableAny xs = xs.any nullable
  | [] => rfl
  | x :: xs => by simp [nullableAny, nullableAny_eq xs]

@[simp] theorem nullable_cat (xs : List Tree) : (Tree.cat xs).nullable = xs.all nullable := by
  rw [nullable, nullableAll_eq]

@[simp] theorem nullable_alt (xs : List Tree) : (Tree.alt xs).nullable = xs.any nullable := by
  rw [nullable, nullableAny_eq]

mutual

/-- **A nullable normal form has least length `0`, or none known.** -/
theorem minLen_of_nullable : ∀ t : Tree, t.nullable → t.minLen = some 0 ∨ t.minLen = none
  | .empty, _ => by simp [minLen]
  | .look _, _ => by simp [minLen]
  | .literal cs, h => by
    simp only [nullable, List.isEmpty_iff] at h
    simp [minLen, h, utf8Total]
  | .cls _ _, h => by simp [nullable] at h
  | .rep lo _ _ s, h => by
    simp only [nullable, Bool.or_eq_true, beq_iff_eq] at h
    rcases h with rfl | h
    · cases hs : s.minLen <;> simp [minLen, hs]
    · rcases minLen_of_nullable s h with h' | h' <;> simp [minLen, h']
  | .capture _ s, h => minLen_of_nullable s h
  | .cat xs, h => minLenSum_of_nullableAll xs h
  | .alt xs, h => minLenLeast_of_nullableAny xs h

theorem minLenSum_of_nullableAll :
    ∀ xs : List Tree, nullableAll xs → minLenSum xs = some 0 ∨ minLenSum xs = none
  | [], _ => by simp [minLenSum]
  | x :: xs, h => by
    simp only [nullableAll, Bool.and_eq_true] at h
    rcases minLen_of_nullable x h.1 with hx | hx <;>
      rcases minLenSum_of_nullableAll xs h.2 with hs | hs <;> simp [minLenSum, hx, hs]

theorem minLenLeast_of_nullableAny :
    ∀ xs : List Tree, nullableAny xs → minLenLeast xs = some 0 ∨ minLenLeast xs = none
  | [], h => by simp [nullableAny] at h
  | [x], h => by
    simp only [nullableAny, Bool.or_false] at h
    exact minLen_of_nullable x h
  | x :: y :: ys, h => by
    simp only [nullableAny, Bool.or_eq_true] at h
    -- either the first branch or one of the others reads nothing
    rw [minLenLeast.eq_3 x (y :: ys) (by simp)]
    rcases h with h | h
    · rcases minLen_of_nullable x h with hx | hx
      · cases minLenLeast (y :: ys) <;> simp [hx]
      · simp [hx]
    · rcases minLenLeast_of_nullableAny (y :: ys) (by simpa [nullableAny] using h) with hl | hl
      · cases x.minLen <;> simp [hl]
      · cases x.minLen <;> simp [hl]

end

mutual

theorem nullable_eq_of_beq : ∀ a b : Tree, beq a b = true → a.nullable = b.nullable
  | .empty, b, h | .look _, b, h | .cls _ _, b, h => by cases b <;> simp_all [beq, nullable]
  | .literal _, b, h => by cases b <;> simp_all [beq, nullable]
  | .rep _ _ _ s, b, h => by
    cases b with
    | rep _ _ _ t =>
      simp only [beq, Bool.and_eq_true, beq_iff_eq] at h
      simp [nullable, h.1.1.1, nullable_eq_of_beq s t h.2]
    | _ => simp [beq] at h
  | .capture _ s, b, h => by
    cases b with
    | capture _ t =>
      simp only [beq, Bool.and_eq_true] at h
      exact nullable_eq_of_beq s t h.2
    | _ => simp [beq] at h
  | .cat xs, b, h => by
    cases b with
    | cat ys => exact (nullable_eq_of_beqList xs ys h).1
    | _ => simp [beq] at h
  | .alt xs, b, h => by
    cases b with
    | alt ys => exact (nullable_eq_of_beqList xs ys h).2
    | _ => simp [beq] at h

theorem nullable_eq_of_beqList : ∀ xs ys : List Tree, beqList xs ys = true →
    nullableAll xs = nullableAll ys ∧ nullableAny xs = nullableAny ys
  | [], [], _ => ⟨rfl, rfl⟩
  | x :: xs, y :: ys, h => by
    simp only [beqList, Bool.and_eq_true] at h
    have hx := nullable_eq_of_beq x y h.1
    have hs := nullable_eq_of_beqList xs ys h.2
    simp [nullableAll, nullableAny, hx, hs.1, hs.2]
  | [], _ :: _, h | _ :: _, [], h => by simp [beqList] at h

end

theorem all_nullable_joinLiterals (l : List Tree) :
    (joinLiterals l).all nullable = l.all nullable := by
  fun_induction joinLiterals l with
  | case1 a b rest ih =>
    rw [ih]
    cases a <;> simp [nullable]
  | case2 x rest _ ih => simp [ih]
  | case3 => rfl

@[simp] theorem nullable_concat (parts : List Tree) :
    (concat parts).nullable = parts.all nullable := by
  unfold concat
  -- a part reads nothing exactly when all it adds to the concatenation can
  have hparts : ∀ t, (flatParts t).all nullable = t.nullable := by
    intro t
    cases t <;> simp [flatParts, nullable, nullableAll_eq]
  have hflat := all_nullable_joinLiterals (parts.flatMap flatParts)
  simp only [List.all_flatMap, hparts] at hflat
  generalize joinLiterals (parts.flatMap flatParts) = js at hflat ⊢
  rcases js with _ | ⟨x, _ | ⟨y, ys⟩⟩ <;> simp_all [nullable, nullableAll_eq]

@[simp] theorem nullable_repetition (lo : Nat) (hi : Option Nat) (greedy : Bool) (sub : Tree) :
    (repetition lo hi greedy sub).nullable = (lo == 0 || sub.nullable) := by
  unfold repetition
  split
  rename_i lo' hi' heq
  -- capping a zero-width body at one round keeps whether no round is needed
  have hlo : (lo' == 0) = (lo == 0) := by
    split at heq <;> obtain ⟨rfl, rfl⟩ := Prod.mk.inj heq <;> cases lo <;> simp
  split
  · rename_i h0
    simp only [Bool.and_eq_true, beq_iff_eq] at h0
    simp [nullable, ← hlo, h0.1]
  · split
    · rename_i h1
      simp only [Bool.and_eq_true, beq_iff_eq] at h1
      simp [← hlo, h1.1]
    · simp [nullable, hlo]

theorem any_nullable_flatAlt (bs : List Tree) :
    (bs.flatMap fun
      | .alt ys => ys
      | x => [x]).any nullable = bs.any nullable := by
  rw [List.any_flatMap]
  congr 1
  funext t
  cases t <;> simp [nullable, nullableAny_eq]

theorem any_nullable_of_singleChars {l : List Tree} {cs : List Nat} (h : singleChars l = some cs) :
    l.any nullable = false := by
  fun_induction singleChars l generalizing cs with
  | case1 => rfl
  | case2 c rest ih =>
    obtain ⟨cs', hcs', -⟩ := Option.map_eq_some_iff.1 h
    simp [nullable, ih hcs']
  | case3 => simp_all

theorem any_nullable_of_classRanges {l : List Tree} {rs : List (Nat × Nat)}
    (h : classRanges l = some rs) : l.any nullable = false := by
  fun_induction classRanges l generalizing rs with
  | case1 => rfl
  | case2 _ _ rest ih =>
    obtain ⟨rs', hrs', -⟩ := Option.map_eq_some_iff.1 h
    simp [nullable, ih hrs']
  | case3 => simp_all

theorem eq_map_cat_of_concatParts {l : List Tree} {xss : List (List Tree)}
    (h : concatParts l = some xss) : l = xss.map .cat := by
  fun_induction concatParts l generalizing xss with
  | case1 => simp_all
  | case2 xs rest ih =>
    obtain ⟨xss', hxss', rfl⟩ := Option.map_eq_some_iff.1 h
    simp [ih hxss']
  | case3 => simp_all

theorem all_nullable_take_of_le_sharedFront :
    ∀ {n : Nat} (xs ys : List Tree), n ≤ sharedFront xs ys → ys.all nullable →
      (xs.take n).all nullable
  | 0, _, _, _, _ => by simp
  | _ + 1, [], _, _, _ => by simp
  | _ + 1, _ :: _, [], h, _ => by simp [sharedFront] at h
  | n + 1, x :: xs, y :: ys, h, hy => by
    unfold sharedFront at h
    split at h
    · rename_i hxy
      simp only [List.all_cons, Bool.and_eq_true] at hy
      have hx : x.nullable = y.nullable := nullable_eq_of_beq x y hxy
      simp only [List.take_succ_cons, List.all_cons, hx, hy.1, Bool.true_and]
      exact all_nullable_take_of_le_sharedFront xs ys (by omega) hy.2
    · omega

theorem foldl_min_sharedFront_le (first : List Tree) :
    ∀ (rest : List (List Tree)) (init : Nat),
      rest.foldl (fun n xs => min n (sharedFront first xs)) init ≤ init ∧
        ∀ xs ∈ rest, rest.foldl (fun n xs => min n (sharedFront first xs)) init ≤ sharedFront first xs
  | [], _ => by simp
  | xs :: rest, init => by
    obtain ⟨h1, h2⟩ := foldl_min_sharedFront_le first rest (min init (sharedFront first xs))
    refine ⟨by simp only [List.foldl_cons]; omega, ?_⟩
    intro ys hys
    simp only [List.mem_cons] at hys
    rcases hys with rfl | hys
    · simp only [List.foldl_cons]; omega
    · exact h2 ys hys

/-- **An alternation in normal form can read nothing when one of its branches can.** Taking a
shared front out keeps it, since the front reads nothing in every branch that does. -/
theorem nullable_alternationUpTo :
    ∀ (fuel : Nat) (bs : List Tree), bs.any nullable → (alternationUpTo fuel bs).nullable
  | 0, bs, h => by simpa [alternationUpTo] using h
  | fuel + 1, bs, h => by
    have hflat := any_nullable_flatAlt bs
    unfold alternationUpTo
    dsimp only
    generalize bs.flatMap _ = flat at hflat ⊢
    rw [← hflat] at h
    rcases flat with _ | ⟨x, _ | ⟨y, ys⟩⟩
    · simp at h
    · simpa using h
    dsimp only
    split
    · rename_i hcs
      simp [any_nullable_of_singleChars hcs] at h
    split
    · rename_i hrs
      simp [any_nullable_of_classRanges hrs] at h
    split
    · rename_i first rest hparts
      have hcat := eq_map_cat_of_concatParts hparts
      rw [hcat] at h
      -- the nullable branch: its parts all read nothing
      obtain ⟨xs, hxs, hnull⟩ : ∃ xs ∈ first :: rest, xs.all nullable := by
        simpa [nullableAll_eq] using h
      obtain ⟨hle, hrest⟩ := foldl_min_sharedFront_le first rest first.length
      split
      · simpa [hcat, nullableAll_eq] using h
      · rw [nullable_concat, List.all_append, Bool.and_eq_true]
        constructor
        · simp only [List.mem_cons] at hxs
          rcases hxs with rfl | hxs
          · exact List.all_eq_true.2 fun t ht => List.all_eq_true.1 hnull t (List.mem_of_mem_take ht)
          · exact all_nullable_take_of_le_sharedFront first xs (hrest xs hxs) hnull
        · simp only [List.all_cons, List.all_nil, Bool.and_true]
          apply nullable_alternationUpTo fuel
          simp only [List.any_map, List.any_eq_true, Function.comp_apply, nullable_concat]
          exact ⟨xs, hxs, List.all_eq_true.2 fun t ht => List.all_eq_true.1 hnull t (List.mem_of_mem_drop ht)⟩
    · simpa [nullableAny_eq] using h

theorem nullable_alternation {bs : List Tree} (h : bs.any nullable) :
    (alternation bs).nullable := nullable_alternationUpTo _ bs h

end Tree

namespace Expr

/-- What reading a pattern keeps of an expression and its normal form: the normal form reads
nothing where the expression can, and no group of the expression takes the number of the whole
match. -/
structure Sound (re : Expr) (tree : Tree) : Prop where
  nullable : re.nullable → tree.nullable
  noWhole : re.hasGroup 0 = false

namespace Sound

theorem empty : Sound .empty .empty := ⟨fun _ => rfl, rfl⟩

theorem ofClass (c : CharClass) (bytes : Bool) : Sound (.set c) (Tree.ofClass c bytes) :=
  ⟨by simp [Expr.nullable], rfl⟩

theorem look (l : Look) : Sound (.look l) (.look l) := ⟨fun _ => rfl, rfl⟩

theorem capture {re : Expr} {t : Tree} {i : Nat} (hi : 0 < i) (h : Sound re t) :
    Sound (.capture i re) (.capture i t) := by
  constructor
  · simpa [Expr.nullable, Tree.nullable] using h.nullable
  · simp only [hasGroup, h.noWhole, Bool.or_false, beq_eq_false_iff_ne]
    omega

section

variable {α : Type} {ps : List α} (re : α → Expr) (tree : α → Tree)

theorem concat (h : ∀ p ∈ ps, Sound (re p) (tree p)) :
    Sound (Expr.concat (ps.map re)) (Tree.concat (ps.map tree)) := by
  constructor
  · simp only [nullable_concat, Tree.nullable_concat, List.all_map, List.all_eq_true,
      Function.comp_apply]
    exact fun hall p hp => (h p hp).nullable (hall p hp)
  · simpa using fun p hp => (h p hp).noWhole

theorem alternation (h : ∀ p ∈ ps, Sound (re p) (tree p)) :
    Sound (Expr.alternation (ps.map re)) (Tree.alternation (ps.map tree)) := by
  constructor
  · intro hre
    apply Tree.nullable_alternation
    simp only [nullable_alternation, List.any_map, List.any_eq_true, Function.comp_apply] at hre ⊢
    obtain ⟨p, hp, hn⟩ := hre
    exact ⟨p, hp, (h p hp).nullable hn⟩
  · simpa using fun p hp => (h p hp).noWhole

end

theorem repetition {re : Expr} {t : Tree} (lo : Nat) (hi : Option Nat) (greedy : Bool)
    (h : Sound re t) : Sound (Expr.repetition lo hi greedy re) (Tree.repetition lo hi greedy t) := by
  constructor
  · simp only [nullable_repetition, Tree.nullable_repetition, Bool.or_eq_true]
    exact fun hre => hre.imp id h.nullable
  · exact hasGroup_repetition lo hi greedy h.noWhole

end Sound

end Expr

end Highlight.Regex
