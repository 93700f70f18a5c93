import BuildVersion.Files.Tree
import BuildVersion.Proofs.Text.Split

namespace BuildVersion.Files

/-- The text of a path is made of its components, of slashes and of points. -/
theorem notMem_toString_iff {c : Char} (hslash : c ≠ '/') (hpoint : c ≠ '.') (p : Path) :
    c ∉ p.toString.toList ↔ ∀ name ∈ p.components, c ∉ name.toList := by
  have hanchor : c ∉ (Path.Anchor.text p.anchor).toList := by
    cases p.anchor <;> simp [Path.Anchor.text, hslash]
  have hnames : c ∉ ("/".intercalate p.components).toList ↔
      ∀ name ∈ p.components, c ∉ name.toList := by
    have hjoin := Text.forall_mem_join (P := fun d => ¬c = d) hslash
      (p.components.map String.toList)
    simp only [List.forall_mem_ne, List.forall_mem_map] at hjoin
    rw [String.toList_intercalate]
    exact hjoin
  rw [Path.toString]
  split
  · next hempty => simp [hempty.2, hpoint]
  · rw [String.toList_append, List.mem_append, not_or, hnames]
    exact and_iff_right hanchor

theorem notMem_toString_append {c : Char} (hslash : c ≠ '/') (hpoint : c ≠ '.') {p : Path}
    {names : List String} (hp : c ∉ p.toString.toList) (hnames : ∀ name ∈ names, c ∉ name.toList) :
    c ∉ (⟨p.anchor, p.components ++ names⟩ : Path).toString.toList := by
  rw [notMem_toString_iff hslash hpoint] at hp ⊢
  intro name hname
  rcases List.mem_append.mp hname with hname | hname
  · exact hp name hname
  · exact hnames name hname

theorem Path.eq_or_mem_of_mem_steps {p : Path} {name : String} (h : name ∈ p.steps) :
    name = "." ∨ name ∈ p.components := by
  rw [steps] at h
  split at h
  · exact .inl (List.mem_singleton.mp h)
  · exact .inr h

namespace Tree

theorem mem_nodes_of_node?_eq_link {t : Tree} {place : Place} {target : String}
    (h : t.node? place = some (.link target)) : (place, Node.link target) ∈ t.nodes := by
  rw [node?] at h
  split at h
  · simp at h
  · obtain ⟨before, after, hnodes, -⟩ := List.lookup_eq_some_iff.mp h
    rw [hnodes]
    exact List.mem_append_right before List.mem_cons_self

/-- Some link asks for a name that is too long. -/
def HasOverlongLink (t : Tree) : Prop :=
  ∃ place target, (place, Node.link target) ∈ t.nodes ∧
    ∃ name ∈ linkSteps target, maxNameBytes < name.utf8ByteSize

/-- Some directory may not be searched. -/
def HasClosedDirectory (t : Tree) : Prop :=
  ∃ place ∈ t.closed, ∃ mtime, t.node? place = some (.directory mtime)

/-- What a walk along names can run into. A name that is too long is one of them, or a link leads
to it. -/
inductive Obstacle (t : Tree) (names : List String) : FileFault → Prop
  | notFound : Obstacle t names .notFound
  | notDirectory : Obstacle t names .notDirectory
  | linkLoop : Obstacle t names .linkLoop
  | overlongName (hlong : (∃ name ∈ names, maxNameBytes < name.utf8ByteSize) ∨ t.HasOverlongLink) :
      Obstacle t names .nameTooLong
  | closedDirectory (hclosed : t.HasClosedDirectory) : Obstacle t names .denied

theorem Obstacle.of_names {t : Tree} {names names' : List String} {cause : FileFault}
    (h : Obstacle t names cause)
    (hnames : ∀ name ∈ names, maxNameBytes < name.utf8ByteSize →
      name ∈ names' ∨ t.HasOverlongLink) :
    Obstacle t names' cause := by
  cases h with
  | notFound => exact .notFound
  | notDirectory => exact .notDirectory
  | linkLoop => exact .linkLoop
  | closedDirectory hclosed => exact .closedDirectory hclosed
  | overlongName hlong =>
      rcases hlong with ⟨name, hname, hlong⟩ | hlink
      · rcases hnames name hname hlong with hname | hlink
        · exact .overlongName (.inl ⟨name, hname, hlong⟩)
        · exact .overlongName (.inr hlink)
      · exact .overlongName (.inr hlink)

theorem Obstacle.cons {t : Tree} {names : List String} {cause : FileFault}
    (h : Obstacle t names cause) (name : String) : Obstacle t (name :: names) cause :=
  h.of_names fun _ hmem _ => .inl (List.mem_cons_of_mem name hmem)

theorem obstacle_of_walk {t : Tree} {links : Nat} {place : Place} {names : List String}
    {cause : FileFault} (h : t.walk links place names = .error cause) :
    Obstacle t names cause := by
  fun_induction t.walk links place names with
  | case1 => contradiction
  | case2 =>
      obtain rfl := Except.error.inj h
      exact .notFound
  | case3 links place name rest mtime hplace hclosed =>
      obtain rfl := Except.error.inj h
      exact .closedDirectory ⟨place, hclosed, mtime, hplace⟩
  | case4 links place rest mtime hplace hopen ih => exact (ih h).cons _
  | case5 links place rest mtime hplace hopen hpoint ih => exact (ih h).cons _
  | case6 links place name rest mtime hplace hopen hpoint hpoints hlong =>
      obtain rfl := Except.error.inj h
      exact .overlongName (.inl ⟨name, List.mem_cons_self, hlong⟩)
  | case7 =>
      obtain rfl := Except.error.inj h
      exact .notFound
  | case8 =>
      obtain rfl := Except.error.inj h
      exact .linkLoop
  | case9 place name rest mtime hplace hopen hpoint hpoints hshort target hnode links ih =>
      refine (ih h).of_names fun step hstep hlong => ?_
      rcases List.mem_append.mp hstep with hsteps | hrest
      · exact .inr ⟨_, target, mem_nodes_of_node?_eq_link hnode, step, hsteps, hlong⟩
      · exact .inl (List.mem_cons_of_mem _ hrest)
  | case10 links place name rest mtime hplace hopen hpoint hpoints hshort node hlink hnode ih =>
      exact (ih h).cons _
  | case11 =>
      obtain rfl := Except.error.inj h
      exact .notDirectory

section Paths

variable {t : Tree} {path : Path}

/-- Without a zero character in its text and within its length, a path is walked. -/
theorem reach_eq_walk (hzero : '\x00' ∉ path.toString.toList)
    (hsize : path.toString.utf8ByteSize ≤ maxPathBytes) :
    t.reach path = t.walk maxLinks (t.start path) path.steps := by
  simp only [reach, List.contains_iff_mem, if_neg hzero, if_neg (Nat.not_lt.mpr hsize)]

theorem reach_eq_error_iff_walk (hzero : '\x00' ∉ path.toString.toList) {cause : FileFault} :
    t.reach path = .error cause ↔
      maxPathBytes < path.toString.utf8ByteSize ∧ cause = .nameTooLong ∨
        path.toString.utf8ByteSize ≤ maxPathBytes ∧
          t.walk maxLinks (t.start path) path.steps = .error cause := by
  rcases Nat.lt_or_ge maxPathBytes path.toString.utf8ByteSize with hlong | hsize
  · simp only [reach, List.contains_iff_mem, if_neg hzero, if_pos hlong, Except.error.injEq]
    rw [or_iff_left fun h => Nat.not_lt.mpr h.1 hlong, and_iff_right hlong]
    exact eq_comm
  · rw [reach_eq_walk hzero hsize, or_iff_right fun h => Nat.not_lt.mpr hsize h.1]
    exact (and_iff_right hsize).symm

theorem reach_eq_zeroCharacter_iff :
    t.reach path = .error .zeroCharacter ↔ '\x00' ∈ path.toString.toList := by
  simp only [reach, List.contains_iff_mem]
  split
  · next hzero => simp [hzero]
  · next hzero =>
      simp only [hzero, iff_false]
      split
      · simp
      · intro hwalk
        cases obstacle_of_walk hwalk

theorem stat_eq_error_iff {cause : FileFault} :
    t.stat path = .error cause ↔ t.reach path = .error cause := by
  rw [stat]
  cases t.reach path <;> simp [Except.map]

theorem stat_eq_ok_iff {node : Node} :
    t.stat path = .ok node ↔ ∃ place, t.reach path = .ok (place, node) := by
  rw [stat]
  cases hreach : t.reach path with
  | error cause => simp [Except.map]
  | ok reached => simp [Except.map, Prod.ext_iff]

theorem stat_eq_zeroCharacter_iff :
    t.stat path = .error .zeroCharacter ↔ '\x00' ∈ path.toString.toList :=
  stat_eq_error_iff.trans reach_eq_zeroCharacter_iff

theorem read_eq_ok_iff {bytes : List UInt8} :
    t.read path = .ok bytes ↔ t.locked = false ∧
      ∃ place mtime, t.reach path = .ok (place, .file bytes mtime) ∧ place ∉ t.closed := by
  rw [read]
  by_cases hlocked : t.locked = true
  · simp [hlocked]
  · rw [if_neg hlocked]
    cases hreach : t.reach path with
    | error cause => simp
    | ok reached =>
        obtain ⟨place, node⟩ := reached
        by_cases hclosed : place ∈ t.closed
        · simp only [if_pos hclosed]
          constructor
          · intro h
            contradiction
          · rintro ⟨-, _, _, ⟨⟩, hopen⟩
            exact absurd hclosed hopen
        · cases node <;> simp [hclosed, hlocked]

theorem exists_stat_of_read {bytes : List UInt8} (h : t.read path = .ok bytes) :
    ∃ mtime, t.stat path = .ok (.file bytes mtime) := by
  obtain ⟨-, place, mtime, hreach, -⟩ := read_eq_ok_iff.mp h
  exact ⟨mtime, stat_eq_ok_iff.mpr ⟨place, hreach⟩⟩

theorem read_ne_zeroCharacter (hzero : '\x00' ∉ path.toString.toList) :
    t.read path ≠ .error .zeroCharacter := by
  have hreach : t.reach path ≠ .error .zeroCharacter := mt reach_eq_zeroCharacter_iff.mp hzero
  rw [read]
  split
  · simp
  · split
    · next cause hcause =>
        rw [hcause, Ne, Except.error.injEq] at hreach
        rwa [Ne, Except.error.injEq]
    · split
      · simp
      · split <;> simp

end Paths

/-- A walk through directories along names, none of which is closed, without a link on the way or at
its end. -/
inductive Reaches (t : Tree) (node : Node) : Place → List String → Prop
  | here {place : Place} (hnode : t.node? place = some node)
      (hlink : ∀ target, node ≠ .link target) : Reaches t node place []
  | step {place : Place} {name : String} {rest : List String} {mtime : Int}
      (hplace : t.node? place = some (.directory mtime)) (hopen : place ∉ t.closed)
      (hname : name ≠ "." ∧ name ≠ ".." ∧ name.utf8ByteSize ≤ maxNameBytes)
      (hrest : Reaches t node (place ++ [name]) rest) : Reaches t node place (name :: rest)

theorem Reaches.exists_node? {t : Tree} {node : Node} {place : Place} {names : List String}
    (h : Reaches t node place names) :
    ∃ first, t.node? place = some first ∧ ∀ target, first ≠ .link target := by
  rcases h with ⟨hnode, hlink⟩ | ⟨hplace, -, -, -⟩
  · exact ⟨node, hnode, hlink⟩
  · exact ⟨_, hplace, by simp⟩

theorem Reaches.walk_eq {t : Tree} {node : Node} {place : Place} {names : List String}
    (h : Reaches t node place names) (links : Nat) :
    t.walk links place names = .ok (place ++ names, node) := by
  induction h with
  | here hnode hlink => rw [walk, hnode, List.append_nil]
  | @step place name rest mtime hplace hopen hname hrest ih =>
      obtain ⟨hpoint, hpoints, hsize⟩ := hname
      obtain ⟨first, hfirst, hlink⟩ := hrest.exists_node?
      rw [walk, hplace]
      simp only [if_neg hopen, if_neg hpoint, if_neg hpoints, if_neg (Nat.not_lt.mpr hsize), hfirst]
      cases first with
      | link target => exact absurd rfl (hlink target)
      | _ => rw [ih, List.append_assoc, List.singleton_append]

section Reached

variable {t : Tree} {node : Node} {path : Path}

theorem Reaches.reach_eq (h : Reaches t node (t.start path) path.steps)
    (hzero : '\x00' ∉ path.toString.toList) (hsize : path.toString.utf8ByteSize ≤ maxPathBytes) :
    t.reach path = .ok (t.start path ++ path.steps, node) := by
  rw [reach_eq_walk hzero hsize, h.walk_eq]

theorem Reaches.stat_eq (h : Reaches t node (t.start path) path.steps)
    (hzero : '\x00' ∉ path.toString.toList) (hsize : path.toString.utf8ByteSize ≤ maxPathBytes) :
    t.stat path = .ok node :=
  stat_eq_ok_iff.mpr ⟨_, h.reach_eq hzero hsize⟩

theorem Reaches.read_eq {bytes : List UInt8} {mtime : Int}
    (h : Reaches t (.file bytes mtime) (t.start path) path.steps)
    (hzero : '\x00' ∉ path.toString.toList) (hsize : path.toString.utf8ByteSize ≤ maxPathBytes)
    (hlocked : t.locked = false) (hopen : t.start path ++ path.steps ∉ t.closed) :
    t.read path = .ok bytes :=
  read_eq_ok_iff.mpr ⟨hlocked, _, mtime, h.reach_eq hzero hsize, hopen⟩

end Reached

end Tree

end BuildVersion.Files
