import Mathlib.Data.List.Basic
import Mathlib.Data.List.Induction
import DataSchema.Logging.Routing

set_option autoImplicit false

/-!
# Records after setups

Loggers are set up one after another, in any order and more than once. What a logger is then is its
last setup alone, and a record on its way up stops at the first logger that has been set up: one of
the two handlers there writes it, if it is no less than a detail, and nothing else does.

## Main definitions

* `DataSchema.Setup`, `DataSchema.Loggers.ofSetups` — setups, and the loggers after them.
* `DataSchema.Loggers.IsAtOrAbove` — loggers above each other, going by their names.
* `DataSchema.Loggers.IsNearest` — the setup that decides about the records of a logger.

## Main results

* `DataSchema.Loggers.lookup_ofSetups` — the last setup of a logger is what it is.
* `DataSchema.Loggers.mem_chain_iff` — the loggers above, by their names.
* `DataSchema.Loggers.writesAlong_ofSetups` — where a record is written on its way up.
* `DataSchema.Loggers.written_by_nearest` — where the records of a logger are written.
-/

namespace DataSchema

/-- A setup of a logger: from which level its records count, and from which they go to the error
stream. -/
structure Setup where
  /-- The name of the logger. -/
  name : String
  /-- The level from which records count. -/
  level : Int
  /-- The level from which records go to the error stream. -/
  stderrLevel : Int
  deriving DecidableEq, Repr

namespace Loggers

/-! ## Setups -/

/-- The loggers after one more setup. -/
def after (ls : Loggers) (s : Setup) : Loggers := ls.configure s.name s.level s.stderrLevel

/-- The loggers after setups in turn. -/
def ofSetups (setups : List Setup) : Loggers := setups.foldl after empty

/-- The last setup of a logger. -/
def lastSetup? (setups : List Setup) (name : String) : Option Setup :=
  setups.reverse.find? fun s => fullName s.name = fullName name

/-- Taking the logger of one name away leaves those of the others. -/
lemma lookup_removed {removed name : String} (h : removed ≠ name)
    (entries : List (String × Logger)) :
    (entries.filter (·.1 != removed)).lookup name = entries.lookup name := by
  induction entries with
  | nil => rfl
  | cons e entries ih =>
    obtain ⟨n, l⟩ := e
    by_cases hn : n = removed
    · have hother : (name == n) = false := beq_eq_false_iff_ne.2 (hn ▸ h.symm)
      rw [List.filter_cons_of_neg (by simp [hn]), ih, List.lookup_cons, hother]
    · rw [List.filter_cons_of_pos (by simpa using hn), List.lookup_cons, List.lookup_cons, ih]

/-- A setup replaces what its logger was, and leaves the others. -/
lemma lookup_after (ls : Loggers) (s : Setup) (name : String) :
    (ls.after s).entries.lookup name =
      if fullName s.name = name then some (Logger.splitting s.level s.stderrLevel)
      else ls.entries.lookup name := by
  rw [after, configure, List.lookup_cons]
  by_cases hname : fullName s.name = name
  · rw [hname, beq_self_eq_true, if_pos rfl]
  · have hother : (name == fullName s.name) = false := beq_eq_false_iff_ne.2 (Ne.symm hname)
    rw [hother, if_neg hname, lookup_removed hname]

/-- **The last setup of a logger is what it is.** -/
theorem lookup_ofSetups (setups : List Setup) (name : String) :
    (ofSetups setups).entries.lookup (fullName name) =
      (lastSetup? setups name).map fun s => Logger.splitting s.level s.stderrLevel := by
  induction setups using List.reverseRecOn with
  | nil => rfl
  | append_singleton setups s ih =>
    rw [ofSetups, List.foldl_append, List.foldl_cons, List.foldl_nil, lookup_after, lastSetup?,
      List.reverse_append, List.reverse_singleton, List.singleton_append, List.find?_cons]
    by_cases hname : fullName s.name = fullName name
    · simp [hname]
    · simp only [hname, if_false, decide_false]
      exact ih

/-- A logger has been set up if one of the setups is of it. -/
lemma isConfigured_iff {setups : List Setup} {name : String} :
    (ofSetups setups).isConfigured name = true ↔ (lastSetup? setups name).isSome = true := by
  rw [isConfigured, lookup_ofSetups, Option.isSome_map]

/-- The last setup of a logger is one of the setups, and of the logger. -/
lemma of_lastSetup {setups : List Setup} {name : String} {s : Setup}
    (h : lastSetup? setups name = some s) : s ∈ setups ∧ fullName s.name = fullName name :=
  ⟨List.mem_reverse.1 (List.mem_of_find?_eq_some h), by simpa using List.find?_some h⟩

/-- A logger that one of the setups is of has a last setup. -/
lemma exists_lastSetup {setups : List Setup} {s : Setup} (h : s ∈ setups) {name : String}
    (hname : fullName s.name = fullName name) : ∃ t, lastSetup? setups name = some t := by
  rw [← Option.isSome_iff_exists, lastSetup?, List.find?_isSome]
  exact ⟨s, List.mem_reverse.2 h, decide_eq_true hname⟩

/-! ## Handlers -/

/-- **Of the two handlers of a logger that splits its records exactly one writes a record**, unless
it is less than a detail: then neither does. -/
lemma streams_of_splitting (loggerLevel stderrLevel level : Int) :
    ((Logger.splitting loggerLevel stderrLevel).handlers.filter (·.accepts level)).map
        Handler.stream =
      if level < Level.debug then []
      else [if level < max stderrLevel Level.debug then .out else .err] := by
  have hleast : Level.debug ≤ max stderrLevel Level.debug := Int.le_max_right _ _
  have hhandlers : (Logger.splitting loggerLevel stderrLevel).handlers =
      [⟨.out, Level.debug, some (max stderrLevel Level.debug)⟩,
        ⟨.err, max stderrLevel Level.debug, none⟩] := rfl
  rw [hhandlers]
  generalize max stderrLevel Level.debug = threshold at hleast
  by_cases hdetail : level < Level.debug
  · have herr : ¬ threshold ≤ level := by omega
    have hout : ¬ Level.debug ≤ level := by omega
    simp [Handler.accepts, herr, hout, hdetail]
  · have hout : Level.debug ≤ level := by omega
    by_cases hbelow : level < threshold
    · have herr : ¬ threshold ≤ level := by omega
      simp [Handler.accepts, herr, hout, hdetail, hbelow]
    · have herr : threshold ≤ level := by omega
      simp [Handler.accepts, herr, hout, hdetail, hbelow]

/-- Where the logger of a setup writes a record. -/
def writesOf (s : Setup) (level : Int) : List (String × OutputStream) :=
  if level < Level.debug then []
  else [(fullName s.name, if level < max s.stderrLevel Level.debug then .out else .err)]

/-- A logger with a setup writes a record at most once. -/
lemma length_writesOf_le (s : Setup) (level : Int) : (writesOf s level).length ≤ 1 := by
  rw [writesOf]
  split
  · exact Nat.zero_le 1
  · exact Nat.le_refl 1

/-! ## The way up -/

/-- A logger without a setup has no handlers and passes records on. -/
lemma get_of_no_setup {setups : List Setup} {name : String} (h : lastSetup? setups name = none) :
    ((ofSetups setups).get name).handlers = [] ∧
      ((ofSetups setups).get name).propagates = true := by
  have hlookup := lookup_ofSetups setups name
  rw [h, Option.map_none] at hlookup
  simp only [get, hlookup]
  split <;> exact ⟨rfl, rfl⟩

/-- A logger with setups is what the last of them says. -/
lemma get_of_lastSetup {setups : List Setup} {name : String} {s : Setup}
    (h : lastSetup? setups name = some s) :
    (ofSetups setups).get name = Logger.splitting s.level s.stderrLevel := by
  have hlookup := lookup_ofSetups setups name
  rw [h, Option.map_some] at hlookup
  rw [get, hlookup]

/-- **A record on its way up** is written by the first logger that has been set up, as its last
setup says, and by no other. -/
theorem writesAlong_ofSetups (setups : List Setup) (level : Int) {names : List String}
    (hnames : ∀ n ∈ names, fullName n = n) :
    (ofSetups setups).writesAlong level names =
      ((names.findSome? (lastSetup? setups)).map (writesOf · level)).getD [] := by
  induction names with
  | nil => rfl
  | cons n names ih =>
    rw [writesAlong, List.findSome?_cons]
    cases hlast : lastSetup? setups n with
    | none =>
      obtain ⟨hhandlers, hpropagates⟩ := get_of_no_setup hlast
      rw [hhandlers, hpropagates]
      exact ih fun m hm => hnames m (List.mem_cons_of_mem n hm)
    | some s =>
      have hname : fullName s.name = n :=
        (of_lastSetup hlast).2.trans (hnames n List.mem_cons_self)
      have hstreams := streams_of_splitting s.level s.stderrLevel level
      have hstops : (Logger.splitting s.level s.stderrLevel).propagates = false := rfl
      rw [get_of_lastSetup hlast, hstops, if_neg (by decide), List.append_nil]
      have hpairs : ∀ handlers : List Handler, handlers.map (fun h => (n, h.stream)) =
          (handlers.map Handler.stream).map (Prod.mk n) := fun handlers => by simp
      simp only [hpairs, hstreams, Option.map_some, Option.getD_some, writesOf, hname]
      split <;> rfl

/-! ## Names above names -/

/-- A logger is at or above another, going by their names: it is the topmost one, or the other
itself, or its name is what the name of the other begins with, up to a dot. -/
def IsAtOrAbove (above name : String) : Prop :=
  above = topmost ∨ above = name ∨ ∃ rest, name = above ++ "." ++ rest

/-- A name begins with another, up to a dot, if the other is what its reversed characters end in. -/
lemma begins_iff_reverse {above name : String} :
    (∃ rest, name = above ++ "." ++ rest) ↔
      ∃ cs, name.toList.reverse = cs ++ '.' :: above.toList.reverse := by
  constructor
  · rintro ⟨rest, rfl⟩
    exact ⟨rest.toList.reverse, by simp⟩
  · rintro ⟨cs, hcs⟩
    refine ⟨String.ofList cs.reverse, String.toList_inj.1 ?_⟩
    rw [← List.reverse_reverse name.toList, hcs]
    simp

/-- Loggers that are at or above each other are the same. -/
lemma IsAtOrAbove.antisymm {a b : String} (hab : IsAtOrAbove a b) (hba : IsAtOrAbove b a) :
    a = b := by
  have hlength : ∀ {a b rest : String}, b = a ++ "." ++ rest → a.length < b.length := by
    rintro a b rest rfl
    simp only [String.length_append]
    have hdot : ".".length = 1 := rfl
    omega
  have htop : ∀ {a rest : String}, topmost ≠ a ++ "." ++ rest := by
    intro a rest h
    have hdot : '.' ∈ topmost.toList := by rw [h]; simp
    exact absurd hdot (by decide)
  rcases hab with rfl | rfl | ⟨rest, hab⟩
  · rcases hba with rfl | rfl | ⟨rest, hba⟩
    · rfl
    · rfl
    · exact absurd hba htop
  · rfl
  · rcases hba with rfl | rfl | ⟨rest', hba⟩
    · exact absurd hab htop
    · rfl
    · have := hlength hab
      have := hlength hba
      omega

variable {ls : Loggers} {cs : List Char} {m : String}

/-- What is above has been set up, and is named by what stands before a dot. -/
lemma of_mem_loggersAbove (h : m ∈ ls.loggersAbove cs) :
    ls.isConfigured m = true ∧ m ≠ topmost ∧ m ≠ "" ∧
      ∃ rest, cs = rest ++ '.' :: m.toList.reverse := by
  fun_induction loggersAbove ls cs with
  | case1 => cases h
  | case2 c cs above hset ih =>
    rw [Bool.and_eq_true, bne_iff_ne] at hset
    rcases List.mem_cons.1 h with rfl | h
    · refine ⟨hset.2, hset.1, ?_, [], by simp [above]⟩
      intro hempty
      simpa [above] using congrArg String.toList hempty
    · obtain ⟨hm, htop, hempty, rest, hrest⟩ := ih h
      exact ⟨hm, htop, hempty, '.' :: rest, by rw [hrest, List.cons_append]⟩
  | case3 c cs above _ ih =>
    obtain ⟨hm, htop, hempty, rest, rfl⟩ := ih h
    exact ⟨hm, htop, hempty, '.' :: c :: rest, rfl⟩
  | case4 c cs _ ih =>
    obtain ⟨hm, htop, hempty, rest, rfl⟩ := ih h
    exact ⟨hm, htop, hempty, c :: rest, rfl⟩

/-- Where no dot stands next to another, all that has been set up and is named by what stands before
a dot is above. -/
lemma mem_loggersAbove (hdots : ¬ ['.', '.'] <:+: cs) (hset : ls.isConfigured m = true)
    (htop : m ≠ topmost) (hempty : m ≠ "") (h : ∃ rest, cs = rest ++ '.' :: m.toList.reverse) :
    m ∈ ls.loggersAbove cs := by
  have hrest : ∀ {c : Char} {cs : List Char}, ¬ ['.', '.'] <:+: c :: cs → ¬ ['.', '.'] <:+: cs :=
    fun hdots hin => hdots (List.infix_cons hin)
  -- what stands before the first dot is the name itself
  have hfirst : ∀ {cs : List Char}, '.' :: cs = '.' :: m.toList.reverse →
      String.ofList cs.reverse = m := by
    rintro cs ⟨⟩
    rw [List.reverse_reverse, String.ofList_toList]
  fun_induction loggersAbove ls cs with
  | case1 =>
    obtain ⟨rest, h⟩ := h
    simp at h
  | case2 c cs above _ ih =>
    obtain ⟨_ | ⟨_, rest⟩, h⟩ := h
    · exact hfirst h ▸ List.mem_cons_self
    · exact List.mem_cons_of_mem above (ih (hrest hdots) ⟨rest, (List.cons.inj h).2⟩)
  | case3 c cs above hnone ih =>
    obtain ⟨_ | ⟨_, _ | ⟨_, rest⟩⟩, h⟩ := h
    · obtain rfl : above = m := hfirst h
      simp [htop, hset] at hnone
    · -- the name would end where the next dot stands
      obtain rfl : c = '.' := (List.cons.inj (List.cons.inj h).2).1
      exact absurd ⟨[], cs, rfl⟩ hdots
    · exact ih (hrest (hrest hdots)) ⟨rest, (List.cons.inj (List.cons.inj h).2).2⟩
  | case4 c cs hother ih =>
    obtain ⟨_ | ⟨_, rest⟩, h⟩ := h
    · obtain ⟨rfl, rfl⟩ := List.cons.inj h
      cases hm : m.toList.reverse with
      | nil => exact absurd (by simpa using hm) hempty
      | cons d ds => exact (hother d ds rfl hm).elim
    · exact ih (hrest hdots) ⟨rest, (List.cons.inj h).2⟩

/-- Each of the loggers above is above those before it. -/
lemma pairwise_loggersAbove (ls : Loggers) (cs : List Char) :
    (ls.loggersAbove cs).Pairwise fun a b => IsAtOrAbove b a := by
  fun_induction loggersAbove ls cs with
  | case1 => exact .nil
  | case2 c cs above _ ih =>
    refine .cons (fun m hm => .inr (.inr ?_)) ih
    obtain ⟨-, -, -, rest, hrest⟩ := of_mem_loggersAbove hm
    exact begins_iff_reverse.2 ⟨rest, by simp [above, hrest]⟩
  | case3 _ _ _ _ ih => exact ih
  | case4 _ _ _ ih => exact ih

/-! ## Loggers above a logger -/

section

variable {name : String}

/-- A name that is not empty is the name that its logger goes by. -/
lemma fullName_of_ne_empty {n : String} (h : n ≠ "") : fullName n = n := if_neg h

/-- The name that a logger goes by is the name of the same logger. -/
lemma fullName_fullName (n : String) : fullName (fullName n) = fullName n := by
  by_cases h : n = ""
  · rw [h]
    rfl
  · rw [fullName_of_ne_empty h, fullName_of_ne_empty h]

/-- A logger other than the topmost one goes by its name. -/
lemma fullName_of_ne_topmost (h : fullName name ≠ topmost) : fullName name = name := by
  refine fullName_of_ne_empty fun hempty => h ?_
  rw [hempty]
  rfl

/-- Loggers on the way up go by the names that they are listed by. -/
lemma fullName_of_mem_chain (h : m ∈ ls.chain name) : fullName m = m := by
  have htop : fullName topmost = topmost := rfl
  rw [chain] at h
  split at h
  next => rw [List.mem_singleton.1 h, htop]
  next hname =>
    rcases List.mem_append.1 h with h | h
    · rcases List.mem_cons.1 h with rfl | h
      · exact fullName_of_ne_topmost hname
      · exact fullName_of_ne_empty (of_mem_loggersAbove h).2.2.1
    · rw [List.mem_singleton.1 h, htop]

/-- Each logger on the way up is at or above those before it. -/
lemma pairwise_chain (ls : Loggers) (name : String) :
    (ls.chain name).Pairwise fun a b => IsAtOrAbove b a := by
  rw [chain]
  split
  next => exact List.pairwise_singleton _ _
  next =>
    rw [List.pairwise_append, List.pairwise_cons]
    refine ⟨⟨fun m hm => .inr (.inr ?_), pairwise_loggersAbove ls _⟩,
      List.pairwise_singleton _ _, fun _ _ m hm => .inl (List.mem_singleton.1 hm)⟩
    exact begins_iff_reverse.2 (of_mem_loggersAbove hm).2.2.2

/-- **The loggers above, by their names**: if no dot of the name of a logger stands next to another,
the loggers that have been set up and are on the way up are those at or above it, going by their
names. -/
theorem mem_chain_iff (hdots : ¬ ['.', '.'] <:+: name.toList) (hset : ls.isConfigured m = true)
    (hm : fullName m = m) : m ∈ ls.chain name ↔ IsAtOrAbove m (fullName name) := by
  have hempty : m ≠ "" := by
    rintro rfl
    exact absurd hm (by decide)
  rw [chain]
  split
  next htop =>
    rw [List.mem_singleton, htop]
    exact ⟨.inl, fun h => h.antisymm (.inl rfl)⟩
  next htop =>
    rw [fullName_of_ne_topmost htop, List.mem_append, List.mem_cons, List.mem_singleton]
    constructor
    · rintro ((rfl | h) | rfl)
      · exact .inr (.inl rfl)
      · exact .inr (.inr (begins_iff_reverse.2 (of_mem_loggersAbove h).2.2.2))
      · exact .inl rfl
    · rintro (rfl | rfl | h)
      · exact .inr rfl
      · exact .inl (.inl rfl)
      · by_cases htop' : m = topmost
        · exact .inr htop'
        · have hdots' : ¬ ['.', '.'] <:+: name.toList.reverse := fun hin =>
            hdots (by simpa using List.reverse_infix.2 hin)
          exact .inl (.inr (mem_loggersAbove hdots' hset htop' hempty (begins_iff_reverse.1 h)))

end

/-- A setup decides about the records of a logger: it is the last one of its own logger, which is on
the way up, and all others on the way up that have been set up are at or above that one. -/
structure IsNearest (setups : List Setup) (name : String) (s : Setup) : Prop where
  /-- It is the last setup of its logger. -/
  last : lastSetup? setups s.name = some s
  /-- Its logger is the logger itself or one above. -/
  above : fullName s.name ∈ (ofSetups setups).chain name
  /-- The others are no nearer. -/
  nearest : ∀ t ∈ setups, fullName t.name ∈ (ofSetups setups).chain name →
    IsAtOrAbove (fullName t.name) (fullName s.name)

/-- The setup that is found first on the way up is the one that decides. -/
lemma isNearest_iff {setups : List Setup} {name : String} {s : Setup} :
    IsNearest setups name s ↔
      ((ofSetups setups).chain name).findSome? (lastSetup? setups) = some s := by
  have hsame : ∀ {n n' : String}, fullName n = fullName n' →
      lastSetup? setups n = lastSetup? setups n' := fun h => by rw [lastSetup?, lastSetup?, h]
  have hfound : ∀ {t : Setup}, ((ofSetups setups).chain name).findSome? (lastSetup? setups) =
      some t → IsNearest setups name t := by
    intro t ht
    obtain ⟨below, n, others, hchain, hlast, hbelow⟩ := List.findSome?_eq_some_iff.1 ht
    have hn : n ∈ (ofSetups setups).chain name := by simp [hchain]
    have hname : fullName t.name = n := (of_lastSetup hlast).2.trans (fullName_of_mem_chain hn)
    refine ⟨(hsame (of_lastSetup hlast).2).trans hlast, hname ▸ hn, fun u hu hmem => ?_⟩
    obtain ⟨v, hv⟩ := exists_lastSetup hu (fullName_of_mem_chain hmem).symm
    have hpairwise := pairwise_chain (ofSetups setups) name
    rw [hchain] at hmem hpairwise
    rw [hname]
    rcases List.mem_append.1 hmem with hmem | hmem
    · cases hv.symm.trans (hbelow _ hmem)
    · rcases List.mem_cons.1 hmem with heq | hmem
      · exact .inr (.inl heq)
      · exact (List.pairwise_cons.1 (List.pairwise_append.1 hpairwise).2.1).1 _ hmem
  refine ⟨fun hs => ?_, hfound⟩
  cases hfirst : ((ofSetups setups).chain name).findSome? (lastSetup? setups) with
  | none =>
    have hnone := List.findSome?_eq_none_iff.1 hfirst _ hs.above
    rw [hsame (fullName_of_mem_chain hs.above), hs.last] at hnone
    cases hnone
  | some t =>
    have ht := hfound hfirst
    have hname := (hs.nearest t (of_lastSetup ht.last).1 ht.above).antisymm
      (ht.nearest s (of_lastSetup hs.last).1 hs.above)
    rw [← ht.last, hsame hname, hs.last]

/-- **Records are written once, by the nearest logger.** After setups in any number and order, no
record is written more than once. Where the logger of a record, or one above it, has been set up,
one setup decides: the last one of the nearest such logger. If the record counts and is no less than
a detail, then this logger writes it and no other does, to the output stream if its level is below
that of the error stream, which begins with details at the least, and to the error stream if not.
And the loggers above are known by their names, if no dot of the name of the record's logger stands
next to another. -/
theorem written_by_nearest (setups : List Setup) (name : String) (level : Int) :
    ((ofSetups setups).writes name level).length ≤ 1 ∧
    ((∃ t ∈ setups, fullName t.name ∈ (ofSetups setups).chain name) →
      ∃ s, IsNearest setups name s) ∧
    (∀ s, IsNearest setups name s → (ofSetups setups).isEnabled name level = true → 10 ≤ level →
      (ofSetups setups).writes name level =
        [(fullName s.name, if level < max s.stderrLevel 10 then .out else .err)]) ∧
    (¬ ['.', '.'] <:+: name.toList → ∀ t ∈ setups,
      (fullName t.name ∈ (ofSetups setups).chain name ↔
        IsAtOrAbove (fullName t.name) (fullName name))) := by
  have halong := writesAlong_ofSetups setups level
    fun n (hn : n ∈ (ofSetups setups).chain name) => fullName_of_mem_chain hn
  refine ⟨?_, ?_, fun s hs henabled hdetail => ?_, fun hdots t ht => ?_⟩
  · rw [writes, halong]
    split
    · cases ((ofSetups setups).chain name).findSome? (lastSetup? setups) with
      | none => exact Nat.zero_le _
      | some s => exact length_writesOf_le s level
    · exact Nat.zero_le _
  · rintro ⟨t, ht, hmem⟩
    obtain ⟨u, hu⟩ := exists_lastSetup ht (fullName_of_mem_chain hmem).symm
    have hsome : (((ofSetups setups).chain name).findSome? (lastSetup? setups)).isSome = true :=
      List.findSome?_isSome_iff.2 ⟨_, hmem, by rw [hu]; rfl⟩
    obtain ⟨s, hs⟩ := Option.isSome_iff_exists.1 hsome
    exact ⟨s, isNearest_iff.2 hs⟩
  · have hcounts : ¬ level < Level.debug := Int.not_lt.2 hdetail
    rw [writes, if_pos henabled, halong, isNearest_iff.1 hs, Option.map_some, Option.getD_some,
      writesOf, if_neg hcounts]
    rfl
  · have hidem := fullName_fullName t.name
    obtain ⟨s, hs⟩ := exists_lastSetup ht hidem.symm
    exact mem_chain_iff hdots (isConfigured_iff.2 (by rw [hs]; rfl)) hidem

/-- A logger is set up, one above it, the first again, and the topmost one. -/
def repeatedSetups : List Setup :=
  [⟨"app.db", 10, 40⟩, ⟨"app", 10, 30⟩, ⟨"app.db", 20, 5⟩, ⟨"", 0, 30⟩]

/-- A record of a logger that was not set up itself: the last setup of the one right above it sends
all but details to the error stream, though the first would not. -/
theorem pooled_record_written :
    IsNearest repeatedSetups "app.db.pool" ⟨"app.db", 20, 5⟩ ∧
      (ofSetups repeatedSetups).writes "app.db.pool" 20 = [("app.db", .err)] ∧
      "app" ∈ (ofSetups repeatedSetups).chain "app.db.pool" := by
  have hnearest : IsNearest repeatedSetups "app.db.pool" ⟨"app.db", 20, 5⟩ := by
    refine ⟨rfl, by decide +kernel, fun t ht _ => ?_⟩
    simp only [repeatedSetups, List.mem_cons, List.not_mem_nil, or_false] at ht
    rcases ht with rfl | rfl | rfl | rfl
    · exact .inr (.inl rfl)
    · exact .inr (.inr ⟨"db", by decide +kernel⟩)
    · exact .inr (.inl rfl)
    · exact .inl rfl
  obtain ⟨-, -, hwritten, hnamed⟩ := written_by_nearest repeatedSetups "app.db.pool" 20
  have happ := hnamed (by decide +kernel) ⟨"app", 10, 30⟩ (by decide +kernel)
  exact ⟨hnearest, hwritten _ hnearest (by decide +kernel) (by decide),
    happ.2 (.inr (.inr ⟨"db.pool", by decide +kernel⟩))⟩

end Loggers

end DataSchema
