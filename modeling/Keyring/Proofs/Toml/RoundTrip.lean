import Keyring.Proofs.Toml.Literal
import Keyring.Proofs.Toml.Scan

namespace Keyring.Toml

open Machine

/-- The value that a plain one is read as. -/
def Plain.value : Plain → Toml
  | .text s => .text s
  | .natural n => .integer n
  | .bool b => .bool b

def Plain.Writable (v : Plain) : Prop :=
  ∃ cs, v.chars? = some cs

def pairOf (entry : String × Plain) : Statement :=
  .pair [entry.1] entry.2.value

def statementsOf (s : Section) : List Statement :=
  .header [s.1] :: s.2.map pairOf

def valueOfPair (entry : String × Plain) : String × Toml :=
  (entry.1, entry.2.value)

def tableOf (s : Section) : String × Toml :=
  (s.1, .table .header (s.2.map valueOfPair))

section Statements

namespace Parse

variable {path : List String} {done : List Statement} {name : String}

theorem pushAll_value {v : Plain} (hv : v.Writable) :
    pushAll push ⟨.value false, [], path, done⟩ [v.token, .newline] =
      some ⟨.statement, [], path, .pair path v.value :: done⟩ := by
  cases v with
  | text s =>
      have htoken : (Plain.text s).token =
          if (styleFor s.toList).block then .block s else .quoted s := by
        simp [Plain.token, Style.token, Open.token, Open.text]
      rw [htoken]
      cases (styleFor s.toList).block <;> rfl
  | natural n =>
      obtain ⟨cs, hcs⟩ := hv
      have hliteral := ofLiteral?_digits (Plain.chars?_natural hcs).1
      have hword : push ⟨.value false, [], path, done⟩ (.word (Decimal.digits n)) =
          some ⟨.literal (Decimal.digits n).reverse, [], path, done⟩ := rfl
      have hend : push ⟨.literal (Decimal.digits n).reverse, [], path, done⟩ .newline =
          some ⟨.statement, [], path, .pair path (.integer n) :: done⟩ := by
        show endLiteral _ (Decimal.digits n).reverse .newline = _
        simp [endLiteral, hliteral, afterValue]
      exact (pushAll_cons hword _).trans (pushAll_cons hend _)
  | bool b => cases b <;> rfl

theorem pushAll_pairTokens {entry : String × Plain} (hkey : isBareKey entry.1 = true)
    (hvalue : entry.2.Writable) :
    pushAll push ⟨.statement, [], path, done⟩ (pairTokens entry) =
      some ⟨.statement, [], [entry.1], pairOf entry :: done⟩ := by
  obtain ⟨-, -, hbare⟩ := isBareKey_iff.mp hkey
  have hword : push ⟨.statement, [], path, done⟩ (.word entry.1.toList) =
      some ⟨.afterPart .line [entry.1], [], path, done⟩ := by
    show (if isBare entry.1.toList then _ else none) = _
    rw [if_pos hbare, String.ofList_toList]
    rfl
  have hmark : pushAll push ⟨.afterPart .line [entry.1], [], path, done⟩ [.gap true, .mark '=', .gap true] =
      some ⟨.value false, [], [entry.1], done⟩ := rfl
  show pushAll push _ (.word entry.1.toList :: ([.gap true, .mark '=', .gap true] ++
    [entry.2.token, .newline])) = _
  rw [pushAll_cons hword, pushAll_append hmark]
  exact pushAll_value hvalue

theorem pushAll_headerTokens (hname : isBareKey name = true) :
    pushAll push ⟨.statement, [], path, done⟩ (headerTokens name) =
      some ⟨.statement, [], path, .header [name] :: done⟩ := by
  obtain ⟨-, -, hbare⟩ := isBareKey_iff.mp hname
  have hword : push ⟨.bracket, [], path, done⟩ (.word name.toList) =
      some ⟨.afterPart .header [name], [], path, done⟩ := by
    show (if isBare name.toList then _ else none) = _
    rw [if_pos hbare, String.ofList_toList]
    rfl
  have hopen : push ⟨.statement, [], path, done⟩ (.mark '[') =
      some ⟨.bracket, [], path, done⟩ := rfl
  show pushAll push _ (.mark '[' :: .word name.toList :: [.mark ']', .newline]) = _
  rw [pushAll_cons hopen, pushAll_cons hword]
  rfl

-- The path of a pair is left over when its line ends, and the next line has its own.
theorem pushAll_pairs {entries : List (String × Plain)}
    (hkeys : ∀ e ∈ entries, isBareKey e.1 = true) (hvalues : ∀ e ∈ entries, e.2.Writable) :
    ∃ path', pushAll push ⟨.statement, [], path, done⟩ (entries.flatMap pairTokens) =
      some ⟨.statement, [], path', (entries.map pairOf).reverse ++ done⟩ := by
  induction entries generalizing path done with
  | nil => exact ⟨path, rfl⟩
  | cons e rest ih =>
      have hfirst : pushAll push ⟨.statement, [], path, done⟩ (pairTokens e) = _ :=
        pushAll_pairTokens (hkeys e List.mem_cons_self) (hvalues e List.mem_cons_self)
      obtain ⟨path', hrest⟩ : ∃ path', pushAll push ⟨.statement, [], [e.1], pairOf e :: done⟩ _ = _ :=
        ih (fun e' he' => hkeys e' (List.mem_cons_of_mem e he'))
          (fun e' he' => hvalues e' (List.mem_cons_of_mem e he'))
      refine ⟨path', ?_⟩
      rw [List.flatMap_cons, pushAll_append hfirst, hrest]
      simp

theorem pushAll_section {s : Section} (hname : isBareKey s.1 = true)
    (hkeys : ∀ e ∈ s.2, isBareKey e.1 = true) (hvalues : ∀ e ∈ s.2, e.2.Writable) :
    ∃ path', pushAll push ⟨.statement, [], path, done⟩ (sectionTokens s) =
      some ⟨.statement, [], path', (statementsOf s).reverse ++ done⟩ := by
  have hheader : pushAll push ⟨.statement, [], path, done⟩ (headerTokens s.1) = _ :=
    pushAll_headerTokens hname
  obtain ⟨path', hpairs⟩ :
      ∃ path', pushAll push ⟨.statement, [], path, .header [s.1] :: done⟩ _ = _ :=
    pushAll_pairs hkeys hvalues
  refine ⟨path', ?_⟩
  rw [sectionTokens, pushAll_append hheader, hpairs]
  simp [statementsOf]

theorem pushAll_document {sections : List Section} (hnames : ∀ s ∈ sections, isBareKey s.1 = true)
    (hkeys : ∀ s ∈ sections, ∀ e ∈ s.2, isBareKey e.1 = true)
    (hvalues : ∀ s ∈ sections, ∀ e ∈ s.2, e.2.Writable) :
    ∃ path', pushAll push ⟨.statement, [], path, done⟩ (documentTokens sections) =
      some ⟨.statement, [], path', (sections.flatMap statementsOf).reverse ++ done⟩ := by
  induction sections generalizing path done with
  | nil => exact ⟨path, rfl⟩
  | cons s rest ih =>
      have hmem : s ∈ s :: rest := List.mem_cons_self
      obtain ⟨path', hfirst⟩ : ∃ path', pushAll push ⟨.statement, [], path, done⟩ _ = _ :=
        pushAll_section (hnames s hmem) (hkeys s hmem) (hvalues s hmem)
      obtain ⟨path'', hrest⟩ : ∃ path'',
          pushAll push ⟨.statement, [], path', (statementsOf s).reverse ++ done⟩ _ = _ :=
        ih (fun s' hs' => hnames s' (List.mem_cons_of_mem s hs'))
          (fun s' hs' => hkeys s' (List.mem_cons_of_mem s hs'))
          (fun s' hs' => hvalues s' (List.mem_cons_of_mem s hs'))
      cases rest with
      | nil =>
          refine ⟨path', ?_⟩
          rw [documentTokens_singleton, hfirst]
          simp
      | cons t rest =>
          refine ⟨path'', ?_⟩
          have hbreak : push ⟨.statement, [], path', (statementsOf s).reverse ++ done⟩ .newline =
              some ⟨.statement, [], path', (statementsOf s).reverse ++ done⟩ := rfl
          rw [documentTokens_cons_cons, pushAll_append hfirst, pushAll_cons hbreak, hrest]
          simp

end Parse

theorem statements?_document {sections : List Section} (hnames : WellNamed sections)
    (hvalues : ∀ s ∈ sections, ∀ e ∈ s.2, e.2.Writable) :
    statements? (documentTokens sections) = some (sections.flatMap statementsOf) := by
  obtain ⟨path', hparse⟩ : ∃ path', pushAll Parse.push ⟨.statement, [], [], []⟩ _ = _ :=
    Parse.pushAll_document hnames.bare hnames.bareKeys hvalues
  show (pushAll Parse.push {} _).bind Parse.close = _
  rw [hparse]
  simp [Parse.close]

end Statements

section Tables

variable {es ps : Entries} {name key : String} {v : Toml}

theorem head?_of_not_mem (h : name ∉ es.map Prod.fst) :
    head? name es = some (es ++ [(name, .table .header [])]) := by
  induction es with
  | nil => rfl
  | cons e rest ih =>
      rw [List.map_cons, List.mem_cons, not_or] at h
      simp [head?, Ne.symm h.1, ih h.2]

theorem enter?_last {f : Origin → Entries → Option Entries} (h : name ∉ es.map Prod.fst) :
    enter? false name f (es ++ [(name, v)]) =
      (change? false f v).map fun v' => es ++ [(name, v')] := by
  induction es with
  | nil => simp [enter?]
  | cons e rest ih =>
      rw [List.map_cons, List.mem_cons, not_or] at h
      simp [enter?, Ne.symm h.1, ih h.2, Function.comp_def]

theorem add?_of_not_mem (h : key ∉ ps.map Prod.fst) : add? key v ps = some (ps ++ [(key, v)]) := by
  have hnone : ps.any (·.1 == key) = false := by
    rw [List.any_eq_false]
    intro e he heq
    exact h (List.mem_map.mpr ⟨e, he, beq_iff_eq.mp heq⟩)
  rw [add?, hnone]
  rfl

theorem take_header {current : List String} (h : name ∉ es.map Prod.fst) :
    Draft.take ⟨es, current⟩ (.header [name]) = some ⟨es ++ [(name, .table .header [])], [name]⟩ := by
  show ((head? name es).bind fun es' => some (Draft.mk es' [name])) = _
  rw [head?_of_not_mem h]
  rfl

theorem take_pair (hname : name ∉ es.map Prod.fst) (hkey : key ∉ ps.map Prod.fst) :
    Draft.take ⟨es ++ [(name, .table .header ps)], [name]⟩ (.pair [key] v) =
      some ⟨es ++ [(name, .table .header (ps ++ [(key, v)]))], [name]⟩ := by
  have hinsert : insert? [key] v .header ps = some (ps ++ [(key, v)]) := add?_of_not_mem hkey
  have hchange : change? false (insert? [key] v) (.table .header ps) =
      some (.table .header (ps ++ [(key, v)])) := by
    simp [change?, hinsert]
  show ((enter? false name (insert? [key] v) _).bind fun es' => some (Draft.mk es' [name])) = _
  rw [enter?_last hname, hchange]
  rfl

theorem foldlM_pairs {entries : List (String × Plain)} (hname : name ∉ es.map Prod.fst)
    (hkeys : (ps.map Prod.fst ++ entries.map Prod.fst).Nodup) :
    (entries.map pairOf).foldlM Draft.take ⟨es ++ [(name, .table .header ps)], [name]⟩ =
      some ⟨es ++ [(name, .table .header (ps ++ entries.map valueOfPair))], [name]⟩ := by
  induction entries generalizing ps with
  | nil => simp
  | cons e rest ih =>
      have hkey : e.1 ∉ ps.map Prod.fst := by
        intro hmem
        exact (List.nodup_append.mp hkeys).2.2 e.1 hmem e.1 List.mem_cons_self rfl
      have hrest : ((ps ++ [valueOfPair e]).map Prod.fst ++ rest.map Prod.fst).Nodup := by
        simpa [valueOfPair] using hkeys
      rw [List.map_cons, List.foldlM_cons]
      have htake : Draft.take ⟨es ++ [(name, .table .header ps)], [name]⟩ (pairOf e) = _ :=
        take_pair hname hkey
      rw [htake]
      refine (ih hrest).trans ?_
      simp

theorem foldlM_section {s : Section} {current : List String} (hname : s.1 ∉ es.map Prod.fst)
    (hkeys : (s.2.map Prod.fst).Nodup) :
    (statementsOf s).foldlM Draft.take ⟨es, current⟩ = some ⟨es ++ [tableOf s], [s.1]⟩ := by
  rw [statementsOf, List.foldlM_cons, take_header hname]
  exact foldlM_pairs hname (by simpa using hkeys)

theorem foldlM_document {sections : List Section} {current : List String}
    (hnames : (es.map Prod.fst ++ sections.map Prod.fst).Nodup)
    (hkeys : ∀ s ∈ sections, (s.2.map Prod.fst).Nodup) :
    ∃ current', (sections.flatMap statementsOf).foldlM Draft.take ⟨es, current⟩ =
      some ⟨es ++ sections.map tableOf, current'⟩ := by
  induction sections generalizing es current with
  | nil => exact ⟨current, by simp⟩
  | cons s rest ih =>
      have hname : s.1 ∉ es.map Prod.fst := by
        intro hmem
        exact (List.nodup_append.mp hnames).2.2 s.1 hmem s.1 List.mem_cons_self rfl
      have hrest : ((es ++ [tableOf s]).map Prod.fst ++ rest.map Prod.fst).Nodup := by
        simpa [tableOf] using hnames
      obtain ⟨current', hlater⟩ : ∃ current', List.foldlM Draft.take ⟨es ++ [tableOf s], [s.1]⟩ _ = _ :=
        ih hrest fun s' hs' => hkeys s' (List.mem_cons_of_mem s hs')
      refine ⟨current', ?_⟩
      rw [List.flatMap_cons, List.foldlM_append,
        foldlM_section hname (hkeys s List.mem_cons_self)]
      refine hlater.trans ?_
      simp

end Tables

theorem exists_mapM_iff {α β : Type} {f : α → Option β} {l : List α} :
    (∃ r, l.mapM f = some r) ↔ ∀ a ∈ l, ∃ b, f a = some b := by
  induction l with
  | nil => simp
  | cons a rest ih =>
      simp only [mapM_cons_eq_some_iff, List.forall_mem_cons, ← ih]
      constructor
      · rintro ⟨-, b, bs, hb, hbs, -⟩
        exact ⟨⟨b, hb⟩, bs, hbs⟩
      · rintro ⟨⟨b, hb⟩, bs, hbs⟩
        exact ⟨b :: bs, b, bs, hb, hbs, rfl⟩

theorem exists_section_iff {s : Section} :
    (∃ part, section? s = some part) ↔ ∀ e ∈ s.2, e.2.Writable := by
  have hlines : (∃ part, section? s = some part) ↔ ∃ lines, s.2.mapM pairLine? = some lines := by
    simp only [section?_eq_some_iff]
    rw [exists_comm]
    simp
  have hline : ∀ e : String × Plain, (∃ line, pairLine? e = some line) ↔ e.2.Writable := by
    intro e
    simp only [pairLine?, Option.map_eq_some_iff]
    rw [exists_comm]
    simp [Plain.Writable]
  rw [hlines, exists_mapM_iff]
  simp only [hline]

theorem exists_document_iff {sections : List Section} :
    (∃ text, document? sections = some text) ↔ ∀ s ∈ sections, ∀ e ∈ s.2, e.2.Writable := by
  have hparts : (∃ text, document? sections = some text) ↔
      ∃ parts, sections.mapM section? = some parts := by
    simp only [document?_eq_some_iff]
    rw [exists_comm]
    simp
  rw [hparts, exists_mapM_iff]
  simp only [exists_section_iff]

/-- A written document is read as its sections with their values. -/
theorem read?_document {sections : List Section} {text : String} (hnames : WellNamed sections)
    (h : document? sections = some text) : read? text = some (sections.map tableOf) := by
  obtain ⟨current, hdraft⟩ :
      ∃ current, (sections.flatMap statementsOf).foldlM Draft.take ⟨[], []⟩ = _ :=
    foldlM_document hnames.apart hnames.apartKeys
  simp [read?, tokens_document hnames h, statements?_document hnames (exists_document_iff.mp ⟨text, h⟩),
    hdraft]

end Keyring.Toml
