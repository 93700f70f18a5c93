import BuildVersion.Proofs.Toml.Line

namespace BuildVersion.Toml

open Settings (Key Value)

structure Pair where
  name : String
  written : List Char
  value : Value

structure Section where
  name : String
  pairs : List Pair

/-- The pairs in front of all headers, and the tables. -/
structure Plan where
  pairs : List Pair
  sections : List Section

def Pair.line (p : Pair) : List Char := pairLine p.name p.written

def Pair.entry (p : Pair) : Key × Value := (.text p.name, p.value)

structure Pair.WellFormed (p : Pair) : Prop where
  isBareName : IsBareName p.name
  writes : Writes p.written p.value

def Section.lines (t : Section) : List (List Char) := headerLine t.name :: t.pairs.map Pair.line

def Section.entry (t : Section) : Key × Value := (.text t.name, .table (t.pairs.map Pair.entry))

structure Section.WellFormed (t : Section) : Prop where
  isBareName : IsBareName t.name
  pairs : ∀ p ∈ t.pairs, p.WellFormed
  nodup : (t.pairs.map Pair.name).Nodup

namespace Plan

def lines (d : Plan) : List (List Char) :=
  d.pairs.map Pair.line ++ d.sections.flatMap Section.lines

def entries (d : Plan) : Entries :=
  d.pairs.map Pair.entry ++ d.sections.map Section.entry

structure WellFormed (d : Plan) : Prop where
  pairs : ∀ p ∈ d.pairs, p.WellFormed
  sections : ∀ t ∈ d.sections, t.WellFormed
  nodup : (d.pairs.map Pair.name ++ d.sections.map Section.name).Nodup

end Plan

variable {entries base inner : Entries} {name : String} {v : Value}

def Lacks (entries : Entries) (name : String) : Prop :=
  ∀ e ∈ entries, e.1 ≠ .text name

theorem Lacks.lookup_eq (h : Lacks entries name) : entries.lookup (.text name) = none := by
  rw [List.lookup_eq_none_iff]
  intro e he
  exact bne_iff_ne.mpr (h e he).symm

theorem lacks_append {t : Entries} :
    Lacks (entries ++ t) name ↔ Lacks entries name ∧ Lacks t name :=
  List.forall_mem_append

theorem lacks_singleton {name' : String} : Lacks [(.text name', v)] name ↔ name' ≠ name := by
  simp [Lacks]

theorem Lacks.replace_eq (h : Lacks entries name) (v : Value) :
    update.replace name v entries = entries := by
  rw [update.replace, List.map_congr_left fun e he => if_neg (h e he)]
  exact List.map_id' _

theorem Lacks.lookup_append (h : Lacks base name) (v : Value) :
    List.lookup (.text name) (base ++ [(Key.text name, v)]) = some v := by
  rw [List.lookup_append, h.lookup_eq]
  simp

/-- A key leads to the table `inner` in the entries `frame inner`, whatever that table holds. -/
def Leads (names : DottedKey) (frame : Entries → Entries) : Prop :=
  ∀ f inner, update f names (frame inner) = (f inner).map frame

theorem leads_nil : Leads [] id := by
  intro f inner
  rw [update, Option.map_id, id, id]

theorem leads_singleton (h : Lacks base name) :
    Leads [name] fun inner : Entries => base ++ [(Key.text name, Value.table inner)] := by
  intro f inner
  have hreplace : ∀ changed : Entries,
      update.replace name (.table changed) (base ++ [(.text name, .table inner)]) =
        base ++ [(.text name, .table changed)] := by
    intro changed
    have hbase := h.replace_eq (.table changed)
    rw [update.replace] at hbase ⊢
    rw [List.map_append, hbase]
    simp
  rw [update, h.lookup_append]
  simp only [update, hreplace]

/-- Nothing is closed to headers and keys, and no table waits to be opened. -/
structure State.IsPlain (st : State) : Prop where
  closed : st.closed = []
  pending : st.pending = []

variable {st : State} {frame : Entries → Entries}

theorem addPair_of_lacks (hst : st.IsPlain) (hleads : Leads st.header frame)
    (hentries : st.entries = frame inner) (hlacks : Lacks inner name) (hv : isNested v = false) :
    st.addPair [name] v = .ok { st with entries := frame (inner ++ [(.text name, v)]) } := by
  have hway : tablesOnTheWay st.header [name] = [] := rfl
  have hput : put (st.header ++ [name]) v st.entries =
      some (frame (inner ++ [(.text name, v)])) := by
    rw [put, List.getLast?_concat, List.dropLast_concat]
    dsimp only
    rw [hentries, hleads, addEntry, hlacks.lookup_eq]
    rfl
  simp only [State.addPair, hway, hst.closed, leadsInto, List.any_nil, Bool.false_eq_true, if_false,
    hput, hv, List.nil_append]

theorem isNested_of_writes {w : List Char} (hw : Writes w v) : isNested v = false := by
  cases hw with
  | text _ => rfl
  | integer _ => rfl

theorem lines_pairs {pairs : List Pair} (hst : st.IsPlain) (hleads : Leads st.header frame)
    (hentries : st.entries = frame inner) (hpairs : ∀ p ∈ pairs, p.WellFormed)
    (hnodup : (pairs.map Pair.name).Nodup) (hlacks : ∀ p ∈ pairs, Lacks inner p.name) :
    Lines (pairs.map Pair.line) st
      { st with entries := frame (inner ++ pairs.map Pair.entry) } := by
  induction pairs generalizing st inner with
  | nil =>
      rw [List.map_nil, List.map_nil, List.append_nil, ← hentries]
      exact .nil
  | cons p pairs ih =>
      obtain ⟨hp, hpairs⟩ := List.forall_mem_cons.mp hpairs
      obtain ⟨hlack, hlacks⟩ := List.forall_mem_cons.mp hlacks
      rw [List.map_cons, List.nodup_cons] at hnodup
      have hadded := addPair_of_lacks hst hleads hentries hlack (isNested_of_writes hp.writes)
      have hrest : ∀ q ∈ pairs, Lacks (inner ++ [p.entry]) q.name := by
        intro q hq
        refine lacks_append.mpr ⟨hlacks q hq, lacks_singleton.mpr ?_⟩
        rintro hsame
        exact hnodup.1 (hsame ▸ List.mem_map_of_mem hq)
      -- The frame stays the same from pair to pair, and only the table in it grows.
      have hnext : State.IsPlain { st with entries := frame (inner ++ [p.entry]) } :=
        ⟨hst.closed, hst.pending⟩
      have hlines := ih hnext hleads rfl hpairs hnodup.2 hrest
      rw [List.append_assoc, List.singleton_append] at hlines
      exact .cons (.pair hp.isBareName hp.writes hadded) hlines

theorem openTable_of_lacks (hst : st.IsPlain) (hopened : [name] ∉ st.opened)
    (hlacks : Lacks st.entries name) :
    st.openTable [name] =
      .ok { st with
        entries := st.entries ++ [(.text name, .table [])]
        header := [name]
        opened := [name] :: st.opened } := by
  have hsettle : st.settle = st := by
    rw [State.settle, hst.pending, List.nil_append, ← hst.pending]
  have hupdate : update some [name] st.entries =
      some (st.entries ++ [(.text name, .table [])]) := by
    rw [update, hlacks.lookup_eq]
    rfl
  have hcontains : st.opened.contains [name] = false := by
    rw [List.contains_eq_mem, decide_eq_false hopened]
  simp only [State.openTable, hsettle, hcontains, hst.closed, leadsInto, List.any_nil, Bool.or_self,
    Bool.false_eq_true, if_false, hupdate]

/-- The state after a table that is added at the end. -/
def State.withSection (st : State) (t : Section) : State :=
  { st with
    entries := st.entries ++ [t.entry]
    header := [t.name]
    opened := [t.name] :: st.opened }

theorem lines_section {t : Section} (hst : st.IsPlain) (ht : t.WellFormed)
    (hopened : [t.name] ∉ st.opened) (hlacks : Lacks st.entries t.name) :
    Lines t.lines st (st.withSection t) := by
  have hheader := openTable_of_lacks hst hopened hlacks
  have hopen : State.IsPlain
      { st with
        entries := st.entries ++ [(.text t.name, .table [])]
        header := [t.name]
        opened := [t.name] :: st.opened } := ⟨hst.closed, hst.pending⟩
  refine .cons (.header ht.isBareName hheader) ?_
  have hempty : ∀ p ∈ t.pairs, Lacks [] p.name := fun _ _ => List.forall_mem_nil _
  exact lines_pairs hopen (leads_singleton hlacks) rfl ht.pairs ht.nodup hempty

theorem exists_lines_sections {sections : List Section} (hst : st.IsPlain)
    (hsections : ∀ t ∈ sections, t.WellFormed) (hnodup : (sections.map Section.name).Nodup)
    (hopened : ∀ t ∈ sections, [t.name] ∉ st.opened)
    (hlacks : ∀ t ∈ sections, Lacks st.entries t.name) :
    ∃ last, Lines (sections.flatMap Section.lines) st last ∧
      last.entries = st.entries ++ sections.map Section.entry := by
  induction sections generalizing st with
  | nil => exact ⟨st, .nil, (List.append_nil _).symm⟩
  | cons t sections ih =>
      obtain ⟨ht, hsections⟩ := List.forall_mem_cons.mp hsections
      obtain ⟨hfree, hopened⟩ := List.forall_mem_cons.mp hopened
      obtain ⟨hlack, hlacks⟩ := List.forall_mem_cons.mp hlacks
      rw [List.map_cons, List.nodup_cons] at hnodup
      have hne : ∀ u ∈ sections, t.name ≠ u.name := by
        intro u hu hsame
        exact hnodup.1 (hsame ▸ List.mem_map_of_mem hu)
      -- The names of the tables to come are neither opened nor taken by this one.
      have hopened' : ∀ u ∈ sections, [u.name] ∉ (st.withSection t).opened := by
        intro u hu hmem
        obtain hsame | hmem := List.mem_cons.mp hmem
        · exact hne u hu (List.singleton_inj.mp hsame).symm
        · exact hopened u hu hmem
      have hlacks' : ∀ u ∈ sections, Lacks (st.withSection t).entries u.name :=
        fun u hu => lacks_append.mpr ⟨hlacks u hu, lacks_singleton.mpr (hne u hu)⟩
      have hnext : (st.withSection t).IsPlain := ⟨hst.closed, hst.pending⟩
      obtain ⟨last, hlines, hentries⟩ := ih hnext hsections hnodup.2 hopened' hlacks'
      refine ⟨last, (lines_section hst ht hfree hlack).append hlines, ?_⟩
      rw [hentries, State.withSection, List.append_assoc, List.singleton_append, List.map_cons]

namespace Plan

variable {d : Plan}

theorem WellFormed.exists_lines (hd : d.WellFormed) :
    ∃ last, Lines d.lines {} last ∧ last.entries = d.entries := by
  obtain ⟨hpairs, hsections, hdisjoint⟩ := List.nodup_append.mp hd.nodup
  have hstart : State.IsPlain {} := ⟨rfl, rfl⟩
  have hempty : ∀ p ∈ d.pairs, Lacks [] p.name := fun _ _ => List.forall_mem_nil _
  have hfront := lines_pairs hstart leads_nil rfl hd.pairs hpairs hempty
  have hlacks : ∀ t ∈ d.sections, Lacks (d.pairs.map Pair.entry) t.name := by
    intro t ht e he
    obtain ⟨p, hp, rfl⟩ := List.mem_map.mp he
    intro hsame
    exact hdisjoint p.name (List.mem_map_of_mem hp) t.name (List.mem_map_of_mem ht)
      (Key.text.inj hsame)
  have hnext : State.IsPlain { entries := d.pairs.map Pair.entry } := ⟨rfl, rfl⟩
  obtain ⟨last, hlines, hentries⟩ := exists_lines_sections hnext hd.sections hsections
    (fun _ _ => List.not_mem_nil) hlacks
  exact ⟨last, hfront.append hlines, hentries⟩

theorem ne_nil_of_mem_lines {l : List Char} (hl : l ∈ d.lines) : l ≠ [] := by
  have hpair : ∀ p : Pair, p.line ≠ [] :=
    fun p => List.append_ne_nil_of_right_ne_nil _ (List.cons_ne_nil _ _)
  obtain hfront | htable := List.mem_append.mp hl
  · obtain ⟨p, -, rfl⟩ := List.mem_map.mp hfront
    exact hpair p
  · obtain ⟨t, -, hl⟩ := List.mem_flatMap.mp htable
    obtain rfl | hl := List.mem_cons.mp hl
    · exact List.cons_ne_nil _ _
    · obtain ⟨p, -, rfl⟩ := List.mem_map.mp hl
      exact hpair p

/-- The lines of a plan, written one below the other, are found again. -/
theorem WellFormed.filter_split_join (hd : d.WellFormed) (hne : d.lines ≠ []) :
    (Text.split '\n' (Text.join '\n' d.lines)).filter (· ≠ []) = d.lines := by
  obtain ⟨last, hlines, -⟩ := hd.exists_lines
  rw [Text.split_join hne (hlines.notMem (by decide)), List.filter_eq_self]
  exact fun l hl => decide_eq_true (ne_nil_of_mem_lines hl)

/-- A document whose lines are those of a plan, with empty lines wherever there are some, has the
entries of the plan. -/
theorem WellFormed.parse_eq (hd : d.WellFormed) {text : String}
    (htext : (Text.split '\n' text.toList).filter (· ≠ []) = d.lines) :
    parse text = .ok d.entries := by
  obtain ⟨last, hlines, hentries⟩ := hd.exists_lines
  rw [← htext] at hlines
  rw [parse_of_lines hlines.of_filter, hentries]

end Plan

end BuildVersion.Toml
