import Highlight.Proofs.Registration

/-!
# Registered extensions and resolved file names agree

The registry stores an extension trimmed, without its leading dots and in lower case
(`normalizeExtension`); it resolves a file name by the text after the last `.` of its last path
part, in lower case (`Registry.resolve`).  The two sides are written apart, and here they are shown
to meet: for an extension `e` without dots, path separators or white space at its ends,
registering `..e` (any number of dots) makes every name `n.e'` whose `e'` lowers like `e` resolve
to the registered language, as long as no later call registers the same key
(`Registry.resolve_registered_extension`).  The extensions of a registered grammar behave the same
way, and a name resolves as its last path part does.

The step that is not bookkeeping is that lower-casing neither adds nor removes a dot or a
separator (`Unicode.mem_lowerText_mark`): a character beyond ASCII lowers either to itself or to
characters of the table, all of them from `a` on (`Unicode.lowerList_images_ge`, checked on the
table itself).  So an `e'` that lowers like `e` has no dot or separator either, and its name's
extension is `e'` itself.
-/

namespace Highlight

namespace Unicode

theorem lowerEntries_toList : lowerEntries.toList = lowerList := by
  unfold lowerEntries
  simp

theorem lowerList_images_ge : ∀ e ∈ lowerList, ∀ y ∈ e.2, 97 ≤ y := by
  have h : lowerList.all (fun e => e.2.all fun y => decide (97 ≤ y)) = true := by decide +kernel
  simpa using h

theorem mem_lowerChar {c x : Char} (hx : x ∈ lowerChar c) :
    (c.toNat < 128 ∧ x = c.toLower) ∨ x = c ∨ ∃ e ∈ lowerList, ∃ y ∈ e.2, x = Char.ofNat y := by
  unfold lowerChar at hx
  split at hx
  · exact .inl ⟨‹_›, by simpa using hx⟩
  split at hx
  · rename_i d m hget
    split at hx
    · have hmem : (d, m) ∈ lowerList := by
        rw [← lowerEntries_toList]
        exact Array.mem_toList_iff.2 (Array.mem_of_getElem? hget)
      obtain ⟨y, hy, rfl⟩ := List.mem_map.1 hx
      exact .inr (.inr ⟨(d, m), hmem, y, hy, rfl⟩)
    · exact .inr (.inl (by simpa using hx))
  · exact .inr (.inl (by simpa using hx))

theorem toNat_ofNat_cases (n : Nat) : (Char.ofNat n).toNat = n ∨ (Char.ofNat n).toNat = 0 := by
  unfold Char.ofNat
  split <;> simp [Char.ofNatAux]

section Marks

-- A mark: a character below `a` that is neither a capital nor the null character, such as `.`,
-- `/` and `\`.
variable {p : Char} (hlow : p.toNat < 97) (hcap : ¬('A'.val ≤ p.val ∧ p.val ≤ 'Z'.val))
  (hnul : p.toNat ≠ 0)
include hlow hcap hnul

theorem mark_mem_lowerChar_iff {c : Char} : p ∈ lowerChar c ↔ c = p := by
  have hlower : p.toLower = p := by
    unfold Char.toLower
    rw [dif_neg (by simpa [ge_iff_le] using hcap)]
  constructor
  · intro hp
    rcases mem_lowerChar hp with ⟨-, hc⟩ | hc | ⟨e, he, y, hy, hc⟩
    · -- a capital lowers to a small letter, which no mark is
      unfold Char.toLower at hc
      split at hc
      · rename_i hup
        have hrange : 65 ≤ c.toNat ∧ c.toNat ≤ 90 := by
          rwa [ge_iff_le, UInt32.le_iff_toNat_le, UInt32.le_iff_toNat_le, Char.toNat_val] at hup
        have hp : p.toNat = c.toNat + 32 := by
          rw [hc]
          show (c.val + 32).toNat = c.val.toNat + 32
          rw [UInt32.toNat_add, Char.toNat_val]
          simp only [UInt32.reduceToNat]
          omega
        omega
      · exact hc.symm
    · exact hc.symm
    · have hge := lowerList_images_ge e he y hy
      rcases toNat_ofNat_cases y with h | h <;> rw [← hc] at h <;> omega
  · rintro rfl
    unfold lowerChar
    rw [if_pos (by omega), hlower]
    simp

theorem mark_mem_lowerText_go_iff : ∀ (before l : List Char), p ∈ lowerText.go before l ↔ p ∈ l
  | _, [] => by simp [lowerText.go]
  | before, c :: after => by
    simp only [lowerText.go, List.mem_append, mark_mem_lowerText_go_iff (c :: before) after,
      List.mem_cons]
    by_cases hc : c = 'Σ'
    · subst hc
      have hne : p ≠ 'Σ' := by
        rintro rfl
        simp at hlow
      have hς : p ≠ 'ς' := by
        rintro rfl
        simp at hlow
      have hσ : p ≠ 'σ' := by
        rintro rfl
        simp at hlow
      simp only [beq_self_eq_true, ↓reduceIte]
      split <;> simp [hς, hσ, hne]
    · rw [if_neg (by simpa using hc), mark_mem_lowerChar_iff hlow hcap hnul, eq_comm]

theorem mark_mem_lowerText_iff {s : String} : p ∈ (lowerText s).toList ↔ p ∈ s.toList := by
  simp [lowerText, mark_mem_lowerText_go_iff hlow hcap hnul]

end Marks

theorem mem_lowerText_mark {s : String} {p : Char} (hp : p = '.' ∨ p = '/' ∨ p = '\\') :
    p ∈ (lowerText s).toList ↔ p ∈ s.toList := by
  rcases hp with rfl | rfl | rfl <;>
    exact mark_mem_lowerText_iff (by decide) (by decide) (by decide)

end Unicode

/-! ## Texts without marks -/

/-- A text with no dot and no path separator: an extension as it can follow the last dot of a
file name. -/
def Unmarked (e : String) : Prop := ∀ c ∈ e.toList, c ≠ '.' ∧ c ≠ '/' ∧ c ≠ '\\'

instance : DecidablePred Unmarked := fun e =>
  inferInstanceAs (Decidable (∀ c ∈ e.toList, c ≠ '.' ∧ c ≠ '/' ∧ c ≠ '\\'))

theorem unmarked_of_lowerText_eq {e e' : String} (he : Unmarked e)
    (h : Unicode.lowerText e' = Unicode.lowerText e) : Unmarked e' := by
  intro c hc
  have hmark : ∀ p, (p = '.' ∨ p = '/' ∨ p = '\\') → p ∉ e.toList := by
    rintro p hp hpe
    have := he p hpe
    rcases hp with rfl | rfl | rfl <;> simp at this
  have hkeep : ∀ p, (p = '.' ∨ p = '/' ∨ p = '\\') → p ∉ e'.toList := fun p hp hpe =>
    hmark p hp ((Unicode.mem_lowerText_mark hp).1
      (h ▸ (Unicode.mem_lowerText_mark (s := e') hp).2 hpe))
  refine ⟨?_, ?_, ?_⟩ <;> rintro rfl <;> exact hkeep _ (by simp) hc

/-! ## Trimming and dots -/

theorem head?_dropWhile_false {p : Char → Bool} :
    ∀ {l : List Char} {x : Char}, (l.dropWhile p).head? = some x → p x = false
  | [], _, h => by simp at h
  | c :: l, x, h => by
    by_cases hc : p c = true
    · rw [List.dropWhile_cons_of_pos hc] at h
      exact head?_dropWhile_false h
    · rw [List.dropWhile_cons_of_neg hc] at h
      simp only [List.head?_cons, Option.some.injEq] at h
      subst h
      simpa using hc

theorem isWhite_getLast_of_trimWhite_eq {s : String} (h : trimWhite s = s) :
    ∀ x ∈ s.toList.getLast?, isWhite x = false := by
  intro x hx
  rw [← h] at hx
  simp only [trimWhite, String.toList_ofList, List.getLast?_reverse] at hx
  exact head?_dropWhile_false hx

theorem dropWhile_eq_self {p : Char → Bool} {l : List Char} (h : ∀ x ∈ l.head?, p x = false) :
    l.dropWhile p = l := by
  cases l with
  | nil => rfl
  | cons c l => exact List.dropWhile_cons_of_neg (by simpa using h)

theorem trimWhite_eq_of_ends {s : String} (hhead : ∀ x ∈ s.toList.head?, isWhite x = false)
    (hlast : ∀ x ∈ s.toList.getLast?, isWhite x = false) : trimWhite s = s := by
  apply String.ext
  simp only [trimWhite, String.toList_ofList]
  rw [dropWhile_eq_self hhead, dropWhile_eq_self (by simpa [List.head?_reverse] using hlast),
    List.reverse_reverse]

theorem normalizeExtension_dots_append {e : String} (k : Nat) (hdot : '.' ∉ e.toList)
    (htrim : trimWhite e = e) :
    normalizeExtension (String.ofList (List.replicate k '.') ++ e) = Unicode.lowerText e := by
  have hwhite : isWhite '.' = false := by decide +kernel
  have hend := isWhite_getLast_of_trimWhite_eq htrim
  have htrim' : trimWhite (String.ofList (List.replicate k '.') ++ e) =
      String.ofList (List.replicate k '.') ++ e := by
    cases k with
    | zero => simpa using htrim
    | succ k =>
      apply trimWhite_eq_of_ends
      · simp [List.replicate_succ, hwhite]
      · intro x hx
        rw [String.toList_append, String.toList_ofList, List.getLast?_append] at hx
        cases hl : e.toList.getLast? with
        | some y =>
          rw [hl, Option.some_or, Option.mem_some_iff] at hx
          exact hx ▸ hend y hl
        | none =>
          rw [hl, Option.none_or, List.getLast?_replicate, if_neg (Nat.succ_ne_zero k),
            Option.mem_some_iff] at hx
          exact hx ▸ hwhite
  have hdrop : dropLeadingDots (String.ofList (List.replicate k '.') ++ e) = e := by
    apply String.ext
    simp only [dropLeadingDots, String.toList_ofList, String.toList_append]
    rw [List.dropWhile_append_of_pos (by simp), dropWhile_eq_self]
    intro x hx
    have : x ≠ '.' := fun hxd => hdot (hxd ▸ List.mem_of_mem_head? hx)
    simpa using this
  rw [normalizeExtension, htrim', hdrop]

/-! ## Splitting a file name -/

theorem baseName_toList (s : String) :
    (baseName s).toList = (s.toList.reverse.takeWhile fun c => c != '/' && c != '\\').reverse := by
  simp [baseName]

theorem baseName_of_unseparated {f : String} (hf : ∀ c ∈ f.toList, c ≠ '/' ∧ c ≠ '\\') :
    baseName f = f := by
  apply String.ext
  rw [baseName_toList, List.takeWhile_eq_self_iff.2 (by simpa using hf), List.reverse_reverse]

theorem baseName_append_sep {d f : String} {sep : String} (hsep : sep = "/" ∨ sep = "\\")
    (hf : ∀ c ∈ f.toList, c ≠ '/' ∧ c ≠ '\\') : baseName (d ++ sep ++ f) = f := by
  apply String.ext
  have hs : sep.toList = ['/'] ∨ sep.toList = ['\\'] := by
    rcases hsep with rfl | rfl
    · exact .inl rfl
    · exact .inr (by decide)
  rw [baseName_toList, String.toList_append, String.toList_append, List.reverse_append,
    List.takeWhile_append_of_pos (by simpa using hf)]
  rcases hs with hs | hs <;> simp [hs]

theorem extension?_baseName_dot {n e : String} (he : Unmarked e) :
    extension? (baseName (n ++ "." ++ e)) = some e := by
  have hsep : ∀ c ∈ ('.' :: e.toList).reverse, (c != '/' && c != '\\') = true := by
    intro c hc
    simp only [List.reverse_cons, List.mem_append, List.mem_reverse, List.mem_singleton] at hc
    rcases hc with hc | rfl
    · simpa using (he c hc).2
    · decide
  have hbase : (baseName (n ++ "." ++ e)).toList =
      (n.toList.reverse.takeWhile fun c => c != '/' && c != '\\').reverse ++ '.' :: e.toList := by
    rw [baseName_toList, String.toList_append, String.toList_append,
      show ("." : String).toList = ['.'] from rfl, List.append_assoc, List.singleton_append,
      List.reverse_append, List.takeWhile_append_of_pos hsep, List.reverse_append,
      List.reverse_reverse]
  have hdots : ∀ c ∈ e.toList.reverse, (c != '.') = true := by
    intro c hc
    simpa using (he c (List.mem_reverse.1 hc)).1
  unfold extension?
  rw [if_pos (by simp [hbase]), hbase, List.reverse_append, List.reverse_cons,
    List.append_assoc, List.takeWhile_append_of_pos hdots]
  simp

namespace Registry

theorem resolve_eq_of_baseName_eq {r : Registry} {x y : String} (h : baseName x = baseName y) :
    r.resolve x = r.resolve y := by
  unfold resolve
  rw [h]

theorem resolve_dot (r : Registry) (n : String) {e : String} (he : Unmarked e) :
    r.resolve (n ++ "." ++ e) = (r.extensionLanguage? (Unicode.lowerText e)).getD r.default := by
  unfold resolve extensionLanguage?
  rw [extension?_baseName_dot he]
  dsimp only
  cases r.extensions.find? (·.1 == Unicode.lowerText e) with
  | none => rfl
  | some entry => rfl

/-! ## Calls that leave a key alone -/

/-- The stored extensions a call may map to a language. -/
def Call.storedKeys : Call → List String
  | .registerExtension ext _ => [normalizeExtension ext]
  | .setDefault _ => []
  | .registerGrammar g => g.extensions.map normalizeExtension

theorem extensionLanguage?_perform {r : Registry} {call : Call} {key : String}
    (h : key ∉ call.storedKeys) : (r.perform call).extensionLanguage? key = r.extensionLanguage? key := by
  cases call with
  | registerExtension ext lang =>
    simp only [Call.storedKeys, List.mem_singleton] at h
    simp [perform, h]
  | setDefault lang => rfl
  | registerGrammar g =>
    simp only [perform]
    split
    · rename_i r' lang hreg
      obtain ⟨i, -, -, hext, -⟩ := registerGrammar_eq_ok_frame hreg
      rw [hext, if_neg (show key ∉ g.extensions.map normalizeExtension from h)]
    · rfl

theorem extensionLanguage?_foldl_perform {key : String} :
    ∀ {calls : List Call} {r : Registry}, (∀ call ∈ calls, key ∉ call.storedKeys) →
      (calls.foldl perform r).extensionLanguage? key = r.extensionLanguage? key
  | [], _, _ => rfl
  | call :: calls, r, h => by
    rw [List.foldl_cons, extensionLanguage?_foldl_perform (fun c hc => h c (by simp [hc])),
      extensionLanguage?_perform (h call (by simp))]

/-- **Registering an extension and resolving a file name agree.**  A name resolves by the key a
registration stored, directly or through a grammar, whatever the case of its extension and the dots
written before it, and only its last path part counts. -/
theorem resolve_registered_extension :
    (∀ (r : Registry) (k : Nat) (e : String) (lang : Language) (calls : List Call) (n e' : String),
      Unmarked e → trimWhite e = e → (∀ call ∈ calls, Unicode.lowerText e ∉ call.storedKeys) →
      Unicode.lowerText e' = Unicode.lowerText e →
      (calls.foldl perform (r.registerExtension (String.ofList (List.replicate k '.') ++ e) lang)).resolve
        (n ++ "." ++ e') = lang) ∧
    (∀ (r r' : Registry) (g : Grammar) (lang : Language) (e : String) (calls : List Call)
      (n e' : String),
      r.registerGrammar g = .ok (r', lang) → e ∈ g.extensions → Unmarked e → trimWhite e = e →
      (∀ call ∈ calls, Unicode.lowerText e ∉ call.storedKeys) →
      Unicode.lowerText e' = Unicode.lowerText e →
      (calls.foldl perform r').resolve (n ++ "." ++ e') = lang) ∧
    (∀ (r : Registry) (d f : String), (∀ c ∈ f.toList, c ≠ '/' ∧ c ≠ '\\') →
      r.resolve (d ++ "/" ++ f) = r.resolve f ∧ r.resolve (d ++ "\\" ++ f) = r.resolve f) := by
  have hnodot : ∀ {e : String}, Unmarked e → '.' ∉ e.toList := fun he hd => (he _ hd).1 rfl
  refine ⟨?_, ?_, ?_⟩
  · intro r k e lang calls n e' he htrim hcalls hlow
    rw [resolve_dot _ n (unmarked_of_lowerText_eq he hlow), hlow,
      extensionLanguage?_foldl_perform hcalls, extensionLanguage?_registerExtension,
      normalizeExtension_dots_append k (hnodot he) htrim, if_pos rfl]
    rfl
  · intro r r' g lang e calls n e' hreg hmem he htrim hcalls hlow
    obtain ⟨i, rfl, -, hext, -⟩ := registerGrammar_eq_ok_frame hreg
    have hkey : Unicode.lowerText e ∈ g.extensions.map normalizeExtension :=
      List.mem_map.2 ⟨e, hmem, by simpa using normalizeExtension_dots_append 0 (hnodot he) htrim⟩
    rw [resolve_dot _ n (unmarked_of_lowerText_eq he hlow), hlow,
      extensionLanguage?_foldl_perform hcalls, hext, if_pos hkey]
    rfl
  · intro r d f hf
    exact ⟨resolve_eq_of_baseName_eq (by rw [baseName_append_sep (.inl rfl) hf,
        baseName_of_unseparated hf]),
      resolve_eq_of_baseName_eq (by rw [baseName_append_sep (.inr rfl) hf,
        baseName_of_unseparated hf])⟩

/-- In the initial registry, registering `..cfgx` for the script language, or a grammar for runs of
`a` that claims `.CFGX`, and then `txt` for markup, makes `conf/main.CfgX` resolve to that
language; `conf/main.cfgx` resolves as `main.cfgx`. -/
theorem resolve_registered_extension_of_initial :
    let g := ((Grammar.named "ini").addExtension ".CFGX").withRule "a+" 0 .keyword
    let calls := [Call.registerExtension "txt" .markup]
    (calls.foldl perform (initial.registerExtension (String.ofList (List.replicate 2 '.') ++ "cfgx")
        .script)).resolve ("conf/main" ++ "." ++ "CfgX") = .script ∧
    (∃ r' lang, initial.registerGrammar g = .ok (r', lang) ∧
      (calls.foldl perform r').resolve ("conf/main" ++ "." ++ "CfgX") = lang) ∧
    initial.resolve ("conf" ++ "/" ++ "main.cfgx") = initial.resolve "main.cfgx" ∧
      initial.resolve ("conf" ++ "\\" ++ "main.cfgx") = initial.resolve "main.cfgx" := by
  intro g calls
  have hunmarked : Unmarked "cfgx" := by
    unfold Unmarked
    simp [show "cfgx".toList = ['c', 'f', 'g', 'x'] from rfl]
  have htrim : trimWhite "cfgx" = "cfgx" := by decide +kernel
  have hlow : Unicode.lowerText "CfgX" = Unicode.lowerText "cfgx" := by decide +kernel
  have hcalls : ∀ call ∈ calls, Unicode.lowerText "cfgx" ∉ call.storedKeys := by
    simp only [calls, List.mem_singleton, forall_eq, Call.storedKeys]
    decide +kernel
  have hg : g = ((Grammar.named "ini").addExtension ".CFGX").addRule ⟨_, .keyword⟩ :=
    Grammar.withRule_of_withGroup Pattern.withGroup_plus
  have hmem : "cfgx" ∈ g.extensions := by
    rw [hg]
    decide +kernel
  have hok : (initial.registerGrammar g).toBool = true := by
    rw [hg]
    decide +kernel
  refine ⟨resolve_registered_extension.1 initial 2 "cfgx" .script calls "conf/main" "CfgX" hunmarked
    htrim hcalls hlow, ?_, resolve_registered_extension.2.2 initial "conf" "main.cfgx" (by
    simp [show "main.cfgx".toList = ['m', 'a', 'i', 'n', '.', 'c', 'f', 'g', 'x'] from rfl])⟩
  cases h : initial.registerGrammar g with
  | error e => simp [h, Except.toBool] at hok
  | ok p =>
    exact ⟨p.1, p.2, rfl, resolve_registered_extension.2.1 initial p.1 g p.2 "cfgx" calls
      "conf/main" "CfgX" h hmem hunmarked htrim hcalls hlow⟩

end Registry

end Highlight
