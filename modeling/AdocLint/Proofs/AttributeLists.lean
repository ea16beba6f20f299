import AdocLint.Rule.Images

/-! Reading an image's attribute list back: a list written with plain keys and a plain alternative
text parses to the attributes it sets, a key set again keeping its place. -/

namespace AdocLint.Images

def pairText (kv : String × String) : List Char :=
  kv.1.toList ++ '=' :: '"' :: (kv.2.toList ++ ['"'])

def joinWithCommas (pad : Nat → Nat) : List (List Char) → List Char
  | [] => []
  | [x] => x
  | x :: y :: rest =>
    x ++ ',' :: List.replicate (pad 0) ' ' ++ joinWithCommas (fun i => pad (i + 1)) (y :: rest)

def attributeText (alt : Option String) (pairs : List (String × String)) (pad : Nat → Nat) :
    String :=
  String.ofList (joinWithCommas pad (alt.toList.map String.toList ++ pairs.map pairText))

def Plain (s : String) : Prop :=
  '=' ∉ s.toList ∧ ',' ∉ s.toList ∧ '"' ∉ s.toList ∧ Text.trim s = s

instance (s : String) : Decidable (Plain s) := inferInstanceAs (Decidable (_ ∧ _ ∧ _ ∧ _))

/-! ### Trimming -/

theorem trimChars_of_trim {s : String} (h : Text.trim s = s) :
    Text.trimChars s.toList = s.toList := by
  have := congrArg String.toList h
  rwa [Text.trim, String.toList_ofList] at this

theorem trimChars_spaces_append (n : Nat) (x : List Char) :
    Text.trimChars (List.replicate n ' ' ++ x) = Text.trimChars x := by
  unfold Text.trimChars
  congr 1
  induction n with
  | zero => rfl
  | succ n ih =>
    rw [List.replicate_succ, List.cons_append, List.dropWhile_cons_of_pos (by decide), ih]

theorem isBlank_head_of_trimChars {c : Char} {cs : List Char}
    (h : Text.trimChars (c :: cs) = c :: cs) : Text.isBlank c = false := by
  cases hc : Text.isBlank c
  · rfl
  -- trimming would drop the blank `c`, and trimming never lengthens
  have hle : (Text.trimChars (c :: cs)).length ≤ cs.length := by
    rw [Text.trimChars, Text.dropBlanksEnd, List.length_reverse, List.dropWhile_cons_of_pos hc]
    calc _ ≤ (cs.dropWhile Text.isBlank).reverse.length := (List.dropWhile_sublist _).length_le
      _ ≤ cs.length := by simpa using (List.dropWhile_sublist _).length_le
  rw [h, List.length_cons] at hle
  omega

theorem trimChars_of_ends {c d : Char} {cs : List Char} (hc : Text.isBlank c = false)
    (hd : Text.isBlank d = false) : Text.trimChars (c :: cs ++ [d]) = c :: cs ++ [d] := by
  rw [Text.trimChars, List.cons_append, List.dropWhile_cons_of_neg (by simp [hc]),
    Text.dropBlanksEnd, ← List.cons_append, List.reverse_append, List.reverse_singleton,
    List.singleton_append, List.dropWhile_cons_of_neg (by simp [hd]), List.reverse_cons,
    List.reverse_reverse]

theorem trimCharsOf_of_ends (set : List Char) {cs : List Char}
    (hhead : ∀ c ∈ cs.head?, c ∉ set) (hlast : ∀ c ∈ cs.getLast?, c ∉ set) :
    Text.trimCharsOf set cs = cs := by
  rcases List.eq_nil_or_concat cs with rfl | ⟨pre, d, rfl⟩
  · rfl
  rw [List.concat_eq_append] at hhead hlast ⊢
  have hd : d ∉ set := hlast d (by simp)
  have hfront : (pre ++ [d]).dropWhile (· ∈ set) = pre ++ [d] := by
    cases pre with
    | nil => exact List.dropWhile_cons_of_neg (by simpa using hd)
    | cons c pre => exact List.dropWhile_cons_of_neg (by simpa using hhead c (by simp))
  rw [Text.trimCharsOf, hfront, List.reverse_append, List.reverse_singleton,
    List.singleton_append, List.dropWhile_cons_of_neg (by simpa using hd), List.reverse_cons,
    List.reverse_reverse]

theorem trimCharsOf_quoted {v : List Char} (hv : '"' ∉ v) :
    Text.trimCharsOf ['"'] ('"' :: v ++ ['"']) = v := by
  rcases List.eq_nil_or_concat v with rfl | ⟨w, d, rfl⟩
  · rfl
  rw [List.concat_eq_append] at hv ⊢
  have hd : d ≠ '"' := fun h => hv (by simp [h])
  -- past the opening quote the value starts with a character that is no quote
  have hfront : (w ++ [d] ++ ['"']).dropWhile (· ∈ ['"']) = w ++ [d] ++ ['"'] := by
    cases w with
    | nil => exact List.dropWhile_cons_of_neg (by simpa using hd)
    | cons c w =>
      refine List.dropWhile_cons_of_neg ?_
      simpa using fun h : c = '"' => hv (by simp [h])
  rw [Text.trimCharsOf, List.cons_append, List.dropWhile_cons_of_pos (by simp), hfront]
  simp [hd]

/-! ### Cutting at commas -/

def Passes (x : List Char) : Prop :=
  ∀ cur rest, splitParts false cur (x ++ rest) = splitParts false (x.reverse ++ cur) rest

theorem splitParts_append (quoted : Bool) : ∀ (x : List Char), '"' ∉ x →
    (quoted = true ∨ ',' ∉ x) → ∀ cur rest,
      splitParts quoted cur (x ++ rest) = splitParts quoted (x.reverse ++ cur) rest
  | [], _, _, cur, rest => rfl
  | c :: x, hq, hc, cur, rest => by
    have hcq : c ≠ '"' := fun h => hq (by simp [h])
    have hcc : ¬(c = ',' ∧ quoted = false) := by
      rintro ⟨rfl, rfl⟩
      rcases hc with h | h
      · cases h
      · exact h List.mem_cons_self
    rw [List.cons_append, splitParts, if_neg hcq, if_neg (by simpa using hcc),
      splitParts_append quoted x (fun h => hq (List.mem_cons_of_mem c h))
        (hc.imp_right fun h h' => h (List.mem_cons_of_mem c h'))]
    simp

theorem passes_plain {x : List Char} (hq : '"' ∉ x) (hc : ',' ∉ x) : Passes x :=
  splitParts_append false x hq (.inr hc)

theorem passes_spaces (n : Nat) : Passes (List.replicate n ' ') :=
  passes_plain (by simp) (by simp)

theorem passes_pairText {kv : String × String} (hk : '"' ∉ kv.1.toList ∧ ',' ∉ kv.1.toList)
    (hv : '"' ∉ kv.2.toList) : Passes (pairText kv) := by
  intro cur rest
  have hkey : Passes (kv.1.toList ++ ['=']) :=
    passes_plain (by simpa using hk.1) (by simpa using hk.2)
  have hpair :
      pairText kv ++ rest = (kv.1.toList ++ ['=']) ++ '"' :: (kv.2.toList ++ '"' :: rest) := by
    simp [pairText]
  rw [hpair, hkey, splitParts, if_pos rfl, Bool.not_false, splitParts_append true _ hv (.inl rfl),
    splitParts, if_pos rfl, Bool.not_true]
  simp [pairText]

theorem splitParts_joinWithCommas : ∀ (xs : List (List Char)) (x : List Char) (pad : Nat → Nat)
    (n : Nat), (∀ y ∈ x :: xs, Passes y) → (∀ y ∈ (x :: xs).getLast?, y ≠ []) →
      splitParts false (List.replicate n ' ') (joinWithCommas pad (x :: xs)) =
        (x :: xs).map fun y => String.ofList (Text.trimChars y)
  | [], x, pad, n, hpass, hlast => by
    have hx : x ≠ [] := hlast x rfl
    rw [joinWithCommas, ← List.append_nil x, hpass x List.mem_cons_self, List.append_nil]
    obtain ⟨c, cs, rfl⟩ := List.exists_cons_of_ne_nil hx
    simp [splitParts, List.reverse_replicate, trimChars_spaces_append]
  | y :: ys, x, pad, n, hpass, hlast => by
    -- the comma after `x` ends its part, and the spaces after it open the next one
    have ih := splitParts_joinWithCommas ys y (fun i => pad (i + 1)) (pad 0)
      (fun z hz => hpass z (List.mem_cons_of_mem x hz)) (by simpa using hlast)
    rw [joinWithCommas, List.append_assoc, hpass x List.mem_cons_self, List.cons_append, splitParts,
      if_neg (by decide), if_pos (by decide), passes_spaces, List.append_nil,
      List.reverse_replicate, ih]
    simp [List.reverse_replicate, trimChars_spaces_append]

theorem getLast?_joinWithCommas : ∀ (xs : List (List Char)) (pad : Nat → Nat),
    (∀ y ∈ xs.getLast?, y ≠ []) →
      (joinWithCommas pad xs).getLast? = xs.getLast?.bind List.getLast?
  | [], _, _ => rfl
  | [x], _, _ => by simp [joinWithCommas]
  | x :: y :: rest, pad, h => by
    have ih := getLast?_joinWithCommas (y :: rest) (fun i => pad (i + 1)) (by simpa using h)
    rw [List.getLast?_cons_cons] at h ⊢
    cases hz : (y :: rest).getLast? with
    | none => simp at hz
    | some z =>
      -- the last item is not empty, so the join ends in its last character
      rw [joinWithCommas, List.getLast?_append, ih, hz, Option.bind_some,
        List.getLast?_eq_some_getLast (h z hz), Option.some_or]

theorem pairText_ne_nil (kv : String × String) : pairText kv ≠ [] := by
  simp [pairText]

theorem getLast?_pairText (kv : String × String) : (pairText kv).getLast? = some '"' := by
  rw [pairText, ← List.cons_append, ← List.cons_append, ← List.append_assoc,
    List.getLast?_concat]

theorem trimChars_pairText {kv : String × String} (hk : kv.1 ≠ "" ∧ Text.trim kv.1 = kv.1) :
    Text.trimChars (pairText kv) = pairText kv := by
  have hne : kv.1.toList ≠ [] := fun h => hk.1 (String.toList_eq_nil_iff.1 h)
  obtain ⟨c, cs, hcs⟩ := List.exists_cons_of_ne_nil hne
  have hc : Text.isBlank c = false := isBlank_head_of_trimChars (hcs ▸ trimChars_of_trim hk.2)
  have hform : pairText kv = c :: (cs ++ '=' :: '"' :: kv.2.toList) ++ ['"'] := by
    simp [pairText, hcs]
  rw [hform, trimChars_of_ends hc rfl]

/-! ### Reading the parts -/

theorem addPart_pairText (acc : Attributes) (i : Nat) {kv : String × String}
    (hk : '=' ∉ kv.1.toList ∧ Text.trim kv.1 = kv.1) (hv : '"' ∉ kv.2.toList) :
    addPart acc i (String.ofList (pairText kv)) = acc.set kv.1 kv.2 := by
  have hkey : (pairText kv).takeWhile (· != '=') = kv.1.toList := by
    rw [pairText,
      List.takeWhile_append_of_pos fun c hc => bne_iff_ne.2 fun (h : c = '=') => hk.1 (h ▸ hc)]
    simp
  have hvalue : (pairText kv).drop (kv.1.toList.length + 1) = '"' :: kv.2.toList ++ ['"'] := by
    simp [pairText]
  have htrim : Text.trimChars ('"' :: kv.2.toList ++ ['"']) = '"' :: kv.2.toList ++ ['"'] :=
    trimChars_of_ends rfl rfl
  simp only [addPart, String.toList_ofList, hkey, hvalue, htrim, trimCharsOf_quoted hv,
    trimChars_of_trim hk.2, String.ofList_toList]
  rw [if_pos (by simp [pairText])]

theorem addPart_alt (acc : Attributes) {a : String} (ha : '=' ∉ a.toList) :
    addPart acc 0 a = acc.set "alt" a := by
  simp [addPart, ha]

theorem foldl_addPart_pairs {pairs : List (String × String)}
    (hpairs : ∀ kv ∈ pairs,
      ('=' ∉ kv.1.toList ∧ Text.trim kv.1 = kv.1) ∧ '"' ∉ kv.2.toList) :
    ∀ (n : Nat) (acc : Attributes),
      ((pairs.map fun kv => String.ofList (pairText kv)).zipIdx n).foldl
          (fun acc p => addPart acc p.2 p.1) acc =
        pairs.foldl (fun acc kv => acc.set kv.1 kv.2) acc := by
  induction pairs with
  | nil => intro n acc; rfl
  | cons kv rest ih =>
    intro n acc
    have h := hpairs kv List.mem_cons_self
    rw [List.map_cons, List.zipIdx_cons, List.foldl_cons, List.foldl_cons,
      addPart_pairText acc n h.1 h.2]
    exact ih (fun kv hkv => hpairs kv (List.mem_cons_of_mem _ hkv)) (n + 1) _

/-! ### The round trip -/

theorem getLast?_joinWithCommas_pairs (alt : Option String) {pairs : List (String × String)}
    (pad : Nat → Nat) (hpairs : pairs ≠ []) :
    (joinWithCommas pad (alt.toList.map String.toList ++ pairs.map pairText)).getLast? =
      some '"' := by
  have hitems : (alt.toList.map String.toList ++ pairs.map pairText).getLast? =
      some (pairText (pairs.getLast hpairs)) := by
    rw [List.getLast?_append, List.getLast?_map, List.getLast?_eq_some_getLast hpairs]
    rfl
  rw [getLast?_joinWithCommas _ pad (by simp [hitems, pairText_ne_nil]), hitems,
    Option.bind_some, getLast?_pairText]

theorem splitParts_attributeText {alt : Option String} {pairs : List (String × String)}
    (pad : Nat → Nat) (hpairs : pairs ≠ [])
    (hkeys : ∀ kv ∈ pairs, kv.1 ≠ "" ∧ Plain kv.1)
    (hvalues : ∀ kv ∈ pairs, '"' ∉ kv.2.toList) (halt : ∀ a ∈ alt, Plain a) :
    splitParts false [] (joinWithCommas pad (alt.toList.map String.toList ++ pairs.map pairText)) =
      alt.toList ++ pairs.map fun kv => String.ofList (pairText kv) := by
  have hpass : ∀ y ∈ pairs.map pairText, Passes y := by
    intro y hy
    obtain ⟨kv, hkv, rfl⟩ := List.mem_map.1 hy
    have h := (hkeys kv hkv).2
    exact passes_pairText ⟨h.2.2.1, h.2.1⟩ (hvalues kv hkv)
  have htrim : (pairs.map pairText).map (fun y => String.ofList (Text.trimChars y)) =
      pairs.map fun kv => String.ofList (pairText kv) := by
    rw [List.map_map]
    refine List.map_congr_left fun kv hkv => ?_
    have h := hkeys kv hkv
    simp only [Function.comp_apply, trimChars_pairText ⟨h.1, h.2.2.2.2⟩]
  -- the last part is a pair, which is never empty
  obtain ⟨kv, rest, rfl⟩ := List.exists_cons_of_ne_nil hpairs
  have hlast : ∀ y ∈ ((kv :: rest).map pairText).getLast?, y ≠ [] := by
    intro y hy
    obtain ⟨kv', -, rfl⟩ := List.mem_map.1 (List.mem_of_getLast? hy)
    exact pairText_ne_nil kv'
  rcases alt with _ | a
  · rw [Option.toList_none, List.map_nil, List.nil_append, List.nil_append, ← htrim]
    exact splitParts_joinWithCommas _ _ pad 0 hpass hlast
  · have ha := halt a rfl
    rw [Option.toList_some, List.map_singleton, List.singleton_append, List.singleton_append,
      ← htrim]
    refine (splitParts_joinWithCommas _ _ pad 0 ?_ (by simpa using hlast)).trans ?_
    · intro y hy
      rcases List.mem_cons.1 hy with rfl | hy
      · exact passes_plain ha.2.2.1 ha.2.1
      · exact hpass y hy
    · rw [List.map_cons]
      exact congrArg (· :: _) ha.2.2.2

/-- A well-formed list reads back as the attributes that setting the alternative text, when
there is one, and then each pair in turn gives. -/
theorem parseAttributes_attributeText (alt : Option String) (pairs : List (String × String))
    (pad : Nat → Nat) (hpairs : pairs ≠ [])
    (hkeys : ∀ kv ∈ pairs, kv.1 ≠ "" ∧ Plain kv.1)
    (hvalues : ∀ kv ∈ pairs, '"' ∉ kv.2.toList) (halt : ∀ a ∈ alt, Plain a)
    (hstart : ∀ c ∈ (attributeText alt pairs pad).toList.head?, c ≠ '[' ∧ c ≠ ']') :
    parseAttributes (attributeText alt pairs pad) =
      (alt.toList.map (("alt", ·)) ++ pairs).foldl (fun acc kv => Attributes.set kv.1 kv.2 acc)
        [] := by
  have hread :
      ∀ kv ∈ pairs, ('=' ∉ kv.1.toList ∧ Text.trim kv.1 = kv.1) ∧ '"' ∉ kv.2.toList :=
    fun kv hkv => ⟨⟨(hkeys kv hkv).2.1, (hkeys kv hkv).2.2.2.2⟩, hvalues kv hkv⟩
  have hlast := getLast?_joinWithCommas_pairs alt pad hpairs
  rw [attributeText, String.toList_ofList] at hstart
  have hbrackets := trimCharsOf_of_ends ['[', ']'] (fun c hc => by simpa using hstart c hc)
    (fun c hc => by rw [hlast, Option.mem_some_iff] at hc; subst hc; decide)
  have hne : (joinWithCommas pad (alt.toList.map String.toList ++ pairs.map pairText)).isEmpty =
      false := by
    cases h : joinWithCommas pad (alt.toList.map String.toList ++ pairs.map pairText) with
    | nil => simp [h] at hlast
    | cons c cs => rfl
  simp only [parseAttributes, attributeText, String.toList_ofList, hbrackets, hne,
    Bool.false_eq_true, if_false, splitParts_attributeText pad hpairs hkeys hvalues halt]
  rcases alt with _ | a
  · exact foldl_addPart_pairs hread 0 []
  · -- the alternative text is the first part, and has no `=`
    rw [Option.toList_some, List.singleton_append, List.zipIdx_cons, List.foldl_cons,
      List.map_singleton, List.singleton_append, List.foldl_cons]
    rw [addPart_alt [] (halt a rfl).1]
    exact foldl_addPart_pairs hread 1 _

theorem parseAttributes_attributeText_title_twice :
    [("title", "a, b=c"), ("width", " 10 "), ("title", "d")] ≠ [] ∧
    (∀ kv ∈ [("title", "a, b=c"), ("width", " 10 "), ("title", "d")],
      kv.1 ≠ "" ∧ Plain kv.1) ∧
    (∀ kv ∈ [("title", "a, b=c"), ("width", " 10 "), ("title", "d")], '"' ∉ kv.2.toList) ∧
    (∀ a ∈ some "A photo", Plain a) ∧
    (∀ c ∈ (attributeText (some "A photo")
        [("title", "a, b=c"), ("width", " 10 "), ("title", "d")] fun i => i).toList.head?,
      c ≠ '[' ∧ c ≠ ']') ∧
    parseAttributes (attributeText (some "A photo")
        [("title", "a, b=c"), ("width", " 10 "), ("title", "d")] fun i => i) =
      ((some "A photo").toList.map (("alt", ·)) ++
        [("title", "a, b=c"), ("width", " 10 "), ("title", "d")]).foldl
        (fun acc kv => Attributes.set kv.1 kv.2 acc) [] :=
  ⟨by decide, by decide, by decide, by decide, by simp [attributeText, joinWithCommas],
    parseAttributes_attributeText _ _ _ (by decide) (by decide) (by decide) (by decide)
      (by simp [attributeText, joinWithCommas])⟩

end AdocLint.Images
