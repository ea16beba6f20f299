import AdocLint.Rule.Check

/-! Tables are the lines between paired delimiters, from lines or numbered lines alike, and the
structure rule reports on the lines strictly inside each. -/

namespace AdocLint.Tables

def slice (ps : Table) (p : Nat × Nat) : Table := (ps.drop p.1).take (p.2 + 1 - p.1)

def delimiterIndexes (k : Nat) (lines : List String) : List Nat :=
  ((lines.zipIdx k).filter fun p => Text.trim p.1 == "|===").map (·.2)

def pairDelimiters (last : Nat) : List Nat → List (Nat × Nat)
  | a :: b :: rest => (a, b) :: pairDelimiters last rest
  | [a] => [(a, last)]
  | [] => []

def indexed (lines : List String) : Table := lines.zipIdx.map fun p => (p.2, p.1)

def pairedTables (ps : Table) : List Table :=
  (pairDelimiters (ps.length - 1) (delimiterIndexes 0 (ps.map (·.2)))).map (slice ps)

def isDelimiter (e : Nat × String) : Bool := Text.trim e.2 == "|==="

def Closed (t : Table) : Prop :=
  ∃ d inner e, t = d :: inner ++ [e] ∧ isDelimiter d ∧ isDelimiter e ∧
    ∀ x ∈ inner, isDelimiter x = false

@[simp] theorem indexed_map_snd (lines : List String) : (indexed lines).map (·.2) = lines := by
  simp [indexed, Function.comp_def, List.zipIdx_map_fst]

theorem delimiterIndexes_cons (k : Nat) (s : String) (rest : List String) :
    delimiterIndexes k (s :: rest) =
      if Text.trim s == "|===" then k :: delimiterIndexes (k + 1) rest
      else delimiterIndexes (k + 1) rest := by
  unfold delimiterIndexes
  rw [List.zipIdx_cons, List.filter_cons]
  split <;> simp

theorem length_delimiterIndexes (k : Nat) (ps : Table) :
    (delimiterIndexes k (ps.map (·.2))).length = ps.countP isDelimiter := by
  induction ps generalizing k with
  | nil => rfl
  | cons p rest ih =>
    rw [List.map_cons, delimiterIndexes_cons, List.countP_cons, isDelimiter]
    split <;> simp [ih]

/-! ### Pairing the delimiters -/

theorem cons_reverse_take_drop {ps rest : Table} {x : Nat × String} {a k : Nat}
    (hk : ps.drop k = x :: rest) (ha : a ≤ k) :
    x :: ((ps.drop a).take (k - a)).reverse = ((ps.drop a).take (k + 1 - a)).reverse := by
  have hx : (ps.drop a)[k - a]? = some x := by
    rw [List.getElem?_drop, Nat.add_sub_cancel' ha, ← Nat.add_zero k, ← List.getElem?_drop, hk]
    rfl
  rw [show k + 1 - a = (k - a) + 1 by omega, List.take_add_one, hx]
  simp

theorem groupFrom_pairDelimiters (ps : Table) :
    ∀ (rest : Table) (k : Nat), ps.drop k = rest →
      groupFrom none rest =
          (pairDelimiters (ps.length - 1) (delimiterIndexes k (rest.map (·.2)))).map (slice ps) ∧
        ∀ a < k, groupFrom (some ((ps.drop a).take (k - a)).reverse) rest =
          (pairDelimiters (ps.length - 1) (a :: delimiterIndexes k (rest.map (·.2)))).map
            (slice ps)
  | [], k, hk => by
    refine ⟨by simp [groupFrom, delimiterIndexes, pairDelimiters], fun a ha => ?_⟩
    -- at the end an open table runs to the last entry
    have hlen : ps.length ≤ k := List.drop_eq_nil_iff.1 hk
    simp only [groupFrom, List.reverse_reverse, List.map_nil, delimiterIndexes, List.zipIdx_nil,
      List.filter_nil, pairDelimiters, List.map_cons, slice, List.cons.injEq, and_true]
    rw [List.take_of_length_le (by simp; omega), List.take_of_length_le (by simp; omega)]
  | (i, s) :: rest, k, hk => by
    have hnext : ps.drop (k + 1) = rest := by
      rw [← List.drop_drop, hk, List.drop_one, List.tail_cons]
    obtain ⟨ihOut, ihIn⟩ := groupFrom_pairDelimiters ps rest (k + 1) hnext
    have hopen : [(i, s)] = ((ps.drop k).take (k + 1 - k)).reverse := by
      rw [hk, Nat.add_sub_cancel_left]
      rfl
    rw [List.map_cons, delimiterIndexes_cons]
    by_cases hd : Text.trim s == "|==="
    · refine ⟨?_, fun a ha => ?_⟩
      · rw [groupFrom, if_pos hd, if_pos hd, hopen]
        exact ihIn k (Nat.lt_succ_self k)
      · rw [groupFrom, if_pos hd, if_pos hd, pairDelimiters, List.map_cons, ihOut,
          cons_reverse_take_drop hk (Nat.le_of_lt ha), List.reverse_reverse]
        rfl
    · refine ⟨?_, fun a ha => ?_⟩
      · rw [groupFrom, if_neg hd, if_neg hd]
        exact ihOut
      · rw [groupFrom, if_neg hd, if_neg hd, cons_reverse_take_drop hk (Nat.le_of_lt ha)]
        exact ihIn a (by omega)

theorem groupFrom_none_eq (ps : Table) : groupFrom none ps = pairedTables ps :=
  (groupFrom_pairDelimiters ps ps 0 rfl).1

theorem extract_lines (lines : List String) :
    extract (lines.map .line) = .ok (groupFrom none (indexed lines)) := by
  cases lines with
  | nil => rfl
  | cons s rest =>
    have hidx : ((s :: rest).map Entry.line).zipIdx.filterMap
        (fun p => p.1.line?.map (p.2, ·)) = indexed (s :: rest) := by
      rw [List.zipIdx_map, List.filterMap_map]
      have hf : ((fun p : Entry × Nat => p.1.line?.map (p.2, ·)) ∘ Prod.map Entry.line id) =
          some ∘ fun p : String × Nat => (p.2, p.1) := by
        funext p
        rfl
      rw [hf, List.filterMap_eq_map]
      rfl
    simp only [extract]
    rw [← hidx]
    rfl

/-! ### Order and closing of the tables -/

theorem mapM_unpack_numbered (ps : Table) :
    (ps.map fun p => Entry.numbered p.1 p.2).mapM Entry.unpack = .ok (ps.map some) := by
  induction ps with
  | nil => rfl
  | cons p ps ih =>
    simp only [List.map_cons, List.mapM_cons, Entry.unpack, ih]
    rfl

theorem extract_numbered (ps : Table) :
    extract (ps.map fun p => .numbered p.1 p.2) = .ok (pairedTables ps) := by
  rw [← groupFrom_none_eq]
  cases ps with
  | nil => rfl
  | cons p rest =>
    -- every entry unpacks to its own pair, and none is passed over
    have hrows := mapM_unpack_numbered (p :: rest)
    have hsome : ((p :: rest).map some).reduceOption = p :: rest :=
      show ((p :: rest).map some).filterMap id = p :: rest by simp [List.filterMap_map]
    simp only [List.map_cons] at hrows hsome ⊢
    simp only [extract, hrows, bind, Except.bind, hsome]

theorem flatten_groupFrom_sublist : ∀ ps : Table,
    (groupFrom none ps).flatten.Sublist ps ∧
      ∀ t, (groupFrom (some t) ps).flatten.Sublist (t.reverse ++ ps)
  | [] => ⟨by simp [groupFrom], fun t => by simp [groupFrom]⟩
  | (i, s) :: rest => by
    -- each entry goes to at most one table, in its place
    obtain ⟨hOut, hIn⟩ := flatten_groupFrom_sublist rest
    by_cases hd : Text.trim s == "|==="
    · refine ⟨?_, fun t => ?_⟩
      · rw [groupFrom, if_pos hd]
        simpa using hIn [(i, s)]
      · rw [groupFrom, if_pos hd, List.flatten_cons, List.reverse_cons, List.append_assoc]
        exact (hOut.cons_cons _).append_left _
    · refine ⟨?_, fun t => ?_⟩
      · rw [groupFrom, if_neg hd]
        exact hOut.cons _
      · rw [groupFrom, if_neg hd]
        simpa using hIn ((i, s) :: t)

theorem take_groupFrom_closed : ∀ ps : Table,
    (∀ t ∈ (groupFrom none ps).take (ps.countP isDelimiter / 2), Closed t) ∧
    ∀ d inner, isDelimiter d → (∀ x ∈ inner, isDelimiter x = false) →
      ∀ t ∈ (groupFrom (some (d :: inner).reverse) ps).take ((ps.countP isDelimiter + 1) / 2),
        Closed t
  | [] => ⟨by simp [groupFrom], fun d inner _ _ => by simp⟩
  | (i, s) :: rest => by
    obtain ⟨hOut, hIn⟩ := take_groupFrom_closed rest
    by_cases hd : Text.trim s == "|==="
    · have hdel : isDelimiter (i, s) := hd
      refine ⟨?_, fun d inner hdd hinner => ?_⟩
      · rw [groupFrom, if_pos hd, List.countP_cons_of_pos hdel]
        exact hIn (i, s) [] hdel (by simp)
      · rw [groupFrom, if_pos hd, List.countP_cons_of_pos hdel,
          show (rest.countP isDelimiter + 1 + 1) / 2 = rest.countP isDelimiter / 2 + 1 by omega,
          List.take_succ_cons]
        intro t ht
        rcases List.mem_cons.1 ht with rfl | ht
        · exact ⟨d, inner, (i, s), by simp, hdd, hdel, hinner⟩
        · exact hOut t ht
    · have hdel : isDelimiter (i, s) = false := by simpa [isDelimiter] using hd
      refine ⟨?_, fun d inner hdd hinner => ?_⟩
      · rw [groupFrom, if_neg hd, List.countP_cons_of_neg (by simp [hdel])]
        exact hOut
      · rw [groupFrom, if_neg hd, List.countP_cons_of_neg (by simp [hdel])]
        have hgrow : (i, s) :: (d :: inner).reverse = (d :: (inner ++ [(i, s)])).reverse := by
          simp
        rw [hgrow]
        refine hIn d (inner ++ [(i, s)]) hdd ?_
        intro x hx
        rcases List.mem_append.1 hx with hx | hx
        · exact hinner x hx
        · rw [List.mem_singleton.1 hx]
          exact hdel

/-- Table extraction pairs the delimiters in turn. For a list of lines, the tables are the
indexed lines from each odd-numbered delimiter to the next, and from a last delimiter left over to
the end; for indexed lines the same holds with their indexes carried through. The tables of a
list of lines follow one another without sharing a line, and all but a last one left open are
closed: exactly their first and last lines are delimiters. -/
theorem extract_pairs_delimiters (lines : List String) (ps : Table) :
    extract (lines.map .line) = .ok (pairedTables (indexed lines)) ∧
    groupFrom none ps = pairedTables ps ∧
    ((pairedTables (indexed lines)).flatten.map (·.1)).Pairwise (· < ·) ∧
    ∀ t ∈ (pairedTables (indexed lines)).take ((delimiterIndexes 0 lines).length / 2), Closed t := by
  have hcount : (delimiterIndexes 0 lines).length = (indexed lines).countP isDelimiter := by
    rw [← length_delimiterIndexes 0, indexed_map_snd]
  refine ⟨by rw [extract_lines, groupFrom_none_eq], groupFrom_none_eq ps, ?_, ?_⟩
  · -- the indexes of the lines increase, and the tables keep a sublist of them
    have hidx : (indexed lines).map (·.1) = List.range lines.length := by
      simp [indexed, Function.comp_def, List.zipIdx_map_snd, List.range_eq_range']
    have hsub := List.Sublist.map Prod.fst (flatten_groupFrom_sublist (indexed lines)).1
    rw [hidx, groupFrom_none_eq] at hsub
    exact (List.pairwise_lt_range).sublist hsub
  · rw [hcount, ← groupFrom_none_eq]
    exact (take_groupFrom_closed (indexed lines)).1

/-! ### The structure rule -/

def mismatch (e : Nat) (r : Nat × String) : Finding :=
  let n := countColumns (Text.trim r.2)
  tableFinding "TABLE002" .error r.1 s!"Inconsistent column count. Expected {e}, found {n}" r.2

def columnMismatches (rows : Table) : List Finding :=
  match rows.filter (isContentRow ·.2) with
  | [] => []
  | first :: rest =>
    (rest.filter fun r => countColumns (Text.trim r.2) != countColumns (Text.trim first.2)).map
      (mismatch (countColumns (Text.trim first.2)))

theorem contentRow_test (s : String) :
    (!(Text.trim s).isEmpty && (Text.trim s).toList.contains '|' && Text.trim s != "|===") =
      isContentRow s := rfl

theorem columnFindings_some (e : Nat) : ∀ rows : Table,
    columnFindings (some e) rows =
      ((rows.filter (isContentRow ·.2)).filter fun r => countColumns (Text.trim r.2) != e).map
        (mismatch e)
  | [] => rfl
  | (i, s) :: rows => by
    have ih := columnFindings_some e rows
    rw [columnFindings, contentRow_test]
    by_cases hc : isContentRow s
    · -- a content row is reported when its count differs from the first row's
      rw [if_pos hc]
      dsimp only
      rw [ih]
      by_cases hn : countColumns (Text.trim s) != e
      · simp only [List.filter_cons, hc, hn, if_true]
        rfl
      · simp only [List.filter_cons, hc, hn, if_true]
        rfl
    · rw [if_neg hc, ih]
      simp only [List.filter_cons, hc, Bool.false_eq_true, if_false]

theorem columnFindings_none : ∀ rows : Table, columnFindings none rows = columnMismatches rows
  | [] => rfl
  | (i, s) :: rows => by
    rw [columnFindings, contentRow_test]
    by_cases hc : isContentRow s
    · -- the first content row sets the count
      rw [if_pos hc]
      dsimp only
      rw [columnFindings_some]
      simp only [columnMismatches, List.filter_cons, hc, if_true]
    · rw [if_neg hc, columnFindings_none rows]
      simp only [columnMismatches, List.filter_cons, hc, Bool.false_eq_true, if_false]

/-- The structure check of a document whose lines are `lines` reports, table by table in the order
of extraction, every content row strictly between the table's first and last line whose cell
count differs from the first such row's, and then an empty-table finding at the table's first line
when there is no such row. A table left open thus loses its last row to the check. -/
theorem check_structure_body_rows (isFile : String → Bool) (doc : Document) (lines : List String)
    (hdoc : doc.lineEntries = .ok (lines.map .line)) :
    ∃ ts, extract (lines.map .line) = .ok ts ∧
      ((Checker.ofRule .tableStructure).check isFile doc).1 = .ok (ts.flatMap fun t =>
        columnMismatches (body t) ++
          if (body t).any (isContentRow ·.2) then []
          else t.head?.toList.map fun h => tableFinding "TABLE002" .warning h.1 "Empty table" h.2) := by
  refine ⟨_, extract_lines lines, ?_⟩
  have hcheck : ((Checker.ofRule .tableStructure).check isFile doc).1 =
      structureFindings (lines.map .line) := by
    simp only [Checker.check, Checker.ofRule, hdoc]
    rfl
  rw [hcheck, structureFindings, extract_lines]
  simp only [bind, Except.bind, pure, Except.pure, Except.ok.injEq]
  congr 1
  funext t
  rw [structureOf, columnFindings_none]
  congr 1
  -- the empty-table finding stands at the table's first line
  split
  · rfl
  · rcases t.head? with _ | ⟨i, s⟩ <;> rfl

theorem check_structure_body_rows_unclosed :
    (Document.text "|===\n|a").lineEntries = .ok ((Text.lines "|===\n|a").map .line) ∧
    ∃ ts, extract ((Text.lines "|===\n|a").map .line) = .ok ts ∧
      ((Checker.ofRule .tableStructure).check (fun _ => false) (.text "|===\n|a")).1 =
        .ok (ts.flatMap fun t =>
          columnMismatches (body t) ++
            if (body t).any (isContentRow ·.2) then []
            else t.head?.toList.map fun h =>
              tableFinding "TABLE002" .warning h.1 "Empty table" h.2) :=
  ⟨rfl, check_structure_body_rows (fun _ => false) (.text "|===\n|a") (Text.lines "|===\n|a") rfl⟩

end AdocLint.Tables
