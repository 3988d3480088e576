import Linkage.Proofs.FilePlaces
import Linkage.Repository.Cache
import Mathlib.Data.List.Induction
import Mathlib.Data.Set.Card

/-!
# Caches and the history of the files

A cache is asked for paths while files are written. What it answers can be told from the files alone:
the first declarations that reading and parsing gave when the path was asked for
(`FileSystem.firstGood?`), or what they give now if they never gave any. `CachedFiles.find?_step`
says what one event adds to the cache and `CachedFiles.find?_run` what a history does.
`CachedFiles.firstGoodWins` puts together what follows, whatever the file system and the state it
starts in: an answer stays whatever is written later, a failure leaves no trace, other paths do not
matter, and the size of the cache is the number of paths that were answered.

Other files do not matter either if the file system keeps its contents at places, except that another
reason may be told why a file cannot be read: `CachedFiles.reason_changes` writes a file through
which a path leads.
-/

namespace Linkage

/-- What can happen to files and the cache in front of them. -/
inductive FileEvent where
  /-- Directories are made along a path. -/
  | make (path : String)
  /-- Contents are written at a path. -/
  | write (path : String) (contents : ByteArray)
  /-- The cache is asked for a path. -/
  | ask (path : String)

/-- Whether directories are made. -/
def FileEvent.Makes : FileEvent → Prop
  | .make _ => True
  | .write _ _ | .ask _ => False

/-- Whether two results for a path are the same, or failures to read it with a reason each. -/
def SameButReason (path : String) (result result' : Except PayloadError (List Declaration)) : Prop :=
  result' = result ∨ ∃ reason reason', result = .error (.unreadable path reason) ∧
    result' = .error (.unreadable path reason')

namespace Reading

/-- Readings with the same contents at a path make the same of it but for the reason of a
failure. -/
theorem sameButReason_declarations {reading reading' : Reading} {path : String}
    (h : (reading' path).toOption = (reading path).toOption) :
    SameButReason path (reading.declarations path) (reading'.declarations path) := by
  simp only [declarations, contents]
  cases hread : reading path with
  | ok bytes =>
    rw [hread] at h
    rw [Except.toOption_eq_some_iff.1 h]
    exact Or.inl rfl
  | error reason =>
    cases hread' : reading' path with
    | ok bytes =>
      rw [hread, hread'] at h
      cases h
    | error reason' => exact Or.inr ⟨reason, reason', rfl, rfl⟩

theorem declarations_congr {reading reading' : Reading} {path : String}
    (h : reading' path = reading path) : reading'.declarations path = reading.declarations path := by
  rw [declarations, declarations, contents, contents, h]

theorem toOption_declarations (reading : Reading) (path : String) :
    (reading.declarations path).toOption =
      (reading path).toOption.bind fun bytes => (Payload.declarations bytes).toOption := by
  rw [declarations, contents]
  cases reading path <;> rfl

end Reading

/-! ## The files by themselves -/

namespace FileSystem

variable {φ κ : Type} (system : FileSystem φ)

/-- The files after an event. -/
def after (files : φ) : FileEvent → φ
  | .make path => (system.makeDirectories files path).2
  | .write path contents => (system.write files path contents).2
  | .ask _ => files

/-- The files after a history. -/
def afterAll (files : φ) (history : List FileEvent) : φ := history.foldl system.after files

/-- What reading and parsing gives if the event asks for a path and they succeed. -/
def good? (files : φ) (path : String) : FileEvent → Option (List Declaration)
  | .make _ | .write _ _ => none
  | .ask asked =>
    if pathPieces asked = pathPieces path then
      (Reading.declarations (system.read files) asked).toOption
    else none

/-- The first declarations that reading and parsing gives when a path is asked for. -/
def firstGood? (files : φ) (path : String) : List FileEvent → Option (List Declaration)
  | [] => none
  | event :: rest =>
    (system.good? files path event).or (firstGood? (system.after files event) path rest)

theorem afterAll_append (files : φ) (front back : List FileEvent) :
    system.afterAll files (front ++ back) = system.afterAll (system.afterAll files front) back :=
  List.foldl_append

theorem firstGood?_append (files : φ) (path : String) (front back : List FileEvent) :
    system.firstGood? files path (front ++ back) =
      (system.firstGood? files path front).or
        (system.firstGood? (system.afterAll files front) path back) := by
  induction front generalizing files with
  | nil => rfl
  | cons event rest ih =>
    rw [List.cons_append, firstGood?, ih, firstGood?, Option.or_assoc]
    rfl

/-- Installing a payload makes the directory and then writes, or fails to make it and does no more. -/
theorem exists_history_of_install (d : Directory φ) (files : φ) (name : String)
    (contents : ByteArray) :
    ∃ history, (history = [.make d.root] ∨
        history = [.make d.root, .write (d.pathOf name) contents]) ∧
      (d.install files name contents).2 = d.system.afterAll files history := by
  rw [Directory.install]
  rcases hmade : d.system.makeDirectories files d.root with ⟨made, files'⟩
  have hfiles : d.system.after files (.make d.root) = files' := congrArg Prod.snd hmade
  cases made with
  | error reason => exact ⟨_, Or.inl rfl, hfiles.symm⟩
  | ok _ =>
    refine ⟨_, Or.inr rfl, ?_⟩
    dsimp only [afterAll, List.foldl_cons, List.foldl_nil]
    rw [hfiles, after]
    rcases d.system.write files' (d.pathOf name) contents with ⟨written, files''⟩
    cases written <;> rfl

/-! ### One file more or less -/

variable {system} [DecidableEq κ] {places : Places φ κ} {place? : Option κ} {files files' : φ}
  {path : String} {history : List FileEvent}

/-- What is done to both of two states makes no difference in other places, as long as no directories
are made. -/
theorem Keeps.after_agreeBut (keeps : system.Keeps places)
    (agree : places.AgreeBut place? files files') {event : FileEvent} (h : ¬ event.Makes) :
    places.AgreeBut place? (system.after files event) (system.after files' event) := by
  cases event with
  | make path => exact absurd trivial h
  | write written contents => exact keeps.write_agreeBut agree written contents
  | ask asked => exact agree

theorem Keeps.afterAll_agreeBut (keeps : system.Keeps places)
    (agree : places.AgreeBut place? files files') (h : ∀ event ∈ history, ¬ event.Makes) :
    places.AgreeBut place? (system.afterAll files history) (system.afterAll files' history) := by
  induction history generalizing files files' with
  | nil => exact agree
  | cons event rest ih =>
    obtain ⟨hevent, hrest⟩ := List.forall_mem_cons.1 h
    exact ih (keeps.after_agreeBut agree hevent) hrest

/-- As long as no directories are made, the layout stays. -/
theorem Keeps.layout_afterAll (keeps : system.Keeps places) (files : φ)
    (h : ∀ event ∈ history, ¬ event.Makes) :
    places.layout (system.afterAll files history) = places.layout files := by
  induction history generalizing files with
  | nil => rfl
  | cons event rest ih =>
    obtain ⟨hevent, hrest⟩ := List.forall_mem_cons.1 h
    refine (ih (system.after files event) hrest).trans ?_
    cases event with
    | make path => exact absurd trivial hevent
    | write written contents => exact keeps.layout_write files written contents
    | ask asked => rfl

/-- A history gives the same good versions of a path, if nothing that is asked for as this path leads
to the one place. -/
theorem Keeps.firstGood?_agreeBut (keeps : system.Keeps places)
    (agree : places.AgreeBut place? files files') (h : ∀ event ∈ history, ¬ event.Makes)
    (hplace : ∀ asked, pathPieces asked = pathPieces path → ∀ place,
      places.source? (places.layout files) asked = some place → place? ≠ some place) :
    system.firstGood? files' path history = system.firstGood? files path history := by
  -- every event takes both states on, and what was assumed of where paths lead is assumed of a
  -- layout that does not change
  induction history generalizing files files' with
  | nil => rfl
  | cons event rest ih =>
    obtain ⟨hevent, hrest⟩ := List.forall_mem_cons.1 h
    have hgood : system.good? files' path event = system.good? files path event := by
      cases event with
      | make made => rfl
      | write written contents => rfl
      | ask asked =>
        rw [good?, good?, Reading.toOption_declarations, Reading.toOption_declarations]
        split
        · next hpath => rw [keeps.toOption_read_eq agree (hplace asked hpath)]
        · rfl
    have hlayout : places.layout (system.after files event) = places.layout files :=
      keeps.layout_afterAll files (List.forall_mem_singleton.2 hevent)
    rw [firstGood?, firstGood?, hgood, ih (keeps.after_agreeBut agree hevent) hrest]
    rw [hlayout]
    exact hplace

end FileSystem

/-! ## One lookup -/

namespace Cache

variable {cache : Cache} {path other : String} {contents : Except PayloadError ByteArray}

theorem find?_congr (h : pathPieces path = pathPieces other) :
    cache.find? path = cache.find? other := by
  rw [find?, find?, h]

/-- What a lookup answers. -/
theorem fst_getOrParse (cache : Cache) (path : String) (contents : Except PayloadError ByteArray) :
    (cache.getOrParse path contents).1 =
      match cache.find? path with
      | some declarations => .ok declarations
      | none => contents >>= Payload.declarations := by
  rcases cache.getOrParse_cases path contents with
    ⟨kept, hfound, heq⟩ | ⟨error, hnew, herror, heq⟩ | ⟨parsed, new, hparsed, heq⟩
  · rw [heq, hfound]
  · rw [heq, hnew]
    exact herror.symm
  · rw [heq, new]
    exact hparsed.symm

/-- What a lookup leaves behind: what was there, and its own success. -/
theorem find?_getOrParse (cache : Cache) (path other : String)
    (contents : Except PayloadError ByteArray) :
    (cache.getOrParse path contents).2.find? other =
      (cache.find? other).or
        (if pathPieces path = pathPieces other then (contents >>= Payload.declarations).toOption
          else none) := by
  by_cases hpath : pathPieces path = pathPieces other
  · rw [if_pos hpath]
    rcases cache.getOrParse_cases path contents with
      ⟨kept, hfound, heq⟩ | ⟨error, -, herror, heq⟩ | ⟨parsed, new, hparsed, heq⟩
    · rw [heq, ← find?_congr hpath, hfound, Option.some_or]
    · rw [heq, herror]
      exact (Option.or_none).symm
    · rw [heq, hparsed, find?_keep, if_pos hpath, ← find?_congr hpath, new]
      rfl
  · -- nothing is kept or dropped for another path, whatever becomes of the lookup
    rw [if_neg hpath, Option.or_none]
    rcases cache.getOrParse_cases path contents with
      ⟨kept, -, heq⟩ | ⟨error, -, -, heq⟩ | ⟨parsed, new, -, heq⟩
    · rw [heq]
    · rw [heq]
    · rw [heq, find?_keep, if_neg hpath]

/-- A lookup that fails leaves the cache as it was. -/
theorem snd_getOrParse_of_error {error : PayloadError}
    (h : (cache.getOrParse path contents).1 = .error error) :
    (cache.getOrParse path contents).2 = cache := by
  rcases cache.getOrParse_cases path contents with
    ⟨kept, -, heq⟩ | ⟨error', -, -, heq⟩ | ⟨parsed, new, -, heq⟩
  · rw [heq]
  · rw [heq]
  · rw [heq] at h
    cases h

/-- An answer is kept for its path. -/
theorem find?_of_fst_getOrParse {declarations : List Declaration}
    (h : (cache.getOrParse path contents).1 = .ok declarations)
    (hpath : pathPieces path = pathPieces other) :
    (cache.getOrParse path contents).2.find? other = some declarations := by
  rw [← find?_congr hpath]
  rcases cache.getOrParse_cases path contents with
    ⟨kept, hfound, heq⟩ | ⟨error, -, -, heq⟩ | ⟨parsed, new, -, heq⟩
  · rw [heq] at h ⊢
    rw [hfound, Except.ok.inj h]
  · rw [heq] at h
    cases h
  · rw [heq] at h ⊢
    rw [find?_keep, if_pos rfl, Except.ok.inj h]

/-- The paths a cache keeps, in pieces. -/
def paths (cache : Cache) : List (List String) := cache.entries.map Prod.fst

/-- A lookup that succeeds adds its path, unless it is there, and one that fails adds none. -/
theorem mem_paths_getOrParse (cache : Cache) (path : String)
    (contents : Except PayloadError ByteArray) (pieces : List String) :
    pieces ∈ (cache.getOrParse path contents).2.paths ↔ pieces ∈ cache.paths ∨
      ∃ declarations, (cache.getOrParse path contents).1 = .ok declarations ∧
        pieces = pathPieces path := by
  rcases cache.getOrParse_cases path contents with
    ⟨kept, hfound, heq⟩ | ⟨error, -, -, heq⟩ | ⟨parsed, new, -, heq⟩
  · rw [heq]
    constructor
    · exact Or.inl
    · rintro (hmem | ⟨_, -, rfl⟩)
      · exact hmem
      · -- an answer out of the cache is one for a path that is there
        refine by_contra fun hnew => ?_
        rw [find?_eq_none_iff.2 hnew] at hfound
        cases hfound
  · rw [heq]
    simp
  · rw [heq, paths, keep, List.map_cons, List.mem_cons, or_comm]
    simp [paths]

/-- The size of a cache is the number of its paths. -/
theorem size_eq_ncard (cache : Cache) :
    cache.size = Set.ncard {pieces | pieces ∈ cache.paths} := by
  have hset : {pieces | pieces ∈ cache.paths} = (cache.paths.toFinset : Set (List String)) := by
    ext pieces
    simp
  have hdistinct : cache.paths.Nodup := cache.paths_distinct
  rw [hset, Set.ncard_coe_finset, List.toFinset_card_of_nodup hdistinct, paths, List.length_map, size]

end Cache

/-! ## The cache in front of the files -/

/-- Files and a cache in front of them. -/
structure CachedFiles (φ : Type) where
  files : φ
  cache : Cache

namespace CachedFiles

variable {φ : Type} (system : FileSystem φ)

/-- Ask the cache for a path. -/
def ask (s : CachedFiles φ) (path : String) :
    Except PayloadError (List Declaration) × CachedFiles φ :=
  let found := s.cache.getOrParse path (Reading.contents (system.read s.files) path)
  (found.1, { s with cache := found.2 })

/-- What an event leaves behind. -/
def step (s : CachedFiles φ) (event : FileEvent) : CachedFiles φ :=
  match event with
  | .ask path => (s.ask system path).2
  | .make _ | .write _ _ => { s with files := system.after s.files event }

/-- What a history leaves behind. -/
def run (s : CachedFiles φ) (history : List FileEvent) : CachedFiles φ :=
  history.foldl (step system) s

/-- What a history leaves behind that starts with nothing in the cache. -/
def ofHistory (start : φ) (history : List FileEvent) : CachedFiles φ :=
  run system ⟨start, .empty⟩ history

/-- What the cache answers after a history when it is asked for a path. -/
def answer (start : φ) (history : List FileEvent) (path : String) :
    Except PayloadError (List Declaration) := ((ofHistory system start history).ask system path).1

/-- The paths, in pieces, that were asked for in a history with success. -/
def answered (start : φ) (history : List FileEvent) : Set (List String) :=
  {pieces | ∃ front path back declarations, history = front ++ .ask path :: back ∧
    answer system start front path = .ok declarations ∧ pieces = pathPieces path}

variable {system} {s : CachedFiles φ} {start : φ} {path : String} {history : List FileEvent}

theorem files_step (s : CachedFiles φ) (event : FileEvent) :
    (s.step system event).files = system.after s.files event := by
  cases event <;> rfl

theorem files_run (s : CachedFiles φ) (history : List FileEvent) :
    (s.run system history).files = system.afterAll s.files history := by
  induction history generalizing s with
  | nil => rfl
  | cons event rest ih =>
    refine (ih (s.step system event)).trans ?_
    rw [files_step]
    rfl

theorem fst_ask (s : CachedFiles φ) (path : String) :
    (s.ask system path).1 =
      match s.cache.find? path with
      | some declarations => .ok declarations
      | none => Reading.declarations (system.read s.files) path := s.cache.fst_getOrParse _ _

/-- A failure leaves files and cache as they were. -/
theorem snd_ask_of_error {error : PayloadError} (h : (s.ask system path).1 = .error error) :
    (s.ask system path).2 = s :=
  congrArg (CachedFiles.mk s.files) (Cache.snd_getOrParse_of_error h)

/-- What is kept for a path after an event: what was kept before, or what the event gives. -/
theorem find?_step (s : CachedFiles φ) (path : String) (event : FileEvent) :
    (s.step system event).cache.find? path =
      (s.cache.find? path).or (system.good? s.files path event) := by
  cases event with
  | make made => exact Option.or_none.symm
  | write written contents => exact Option.or_none.symm
  | ask asked => exact s.cache.find?_getOrParse _ _ _

/-- What is kept for a path after a history: what was kept before, or the first good version. -/
theorem find?_run (s : CachedFiles φ) (path : String) (history : List FileEvent) :
    (s.run system history).cache.find? path =
      (s.cache.find? path).or (system.firstGood? s.files path history) := by
  induction history generalizing s with
  | nil => exact Option.or_none.symm
  | cons event rest ih =>
    -- what the first event gives goes in front of what the rest gives, and behind what was kept
    have hrest := ih (s.step system event)
    rw [find?_step, Option.or_assoc, files_step] at hrest
    exact hrest

/-- An answer is given again after any history. -/
theorem ask_of_ask {declarations : List Declaration} {other : String}
    (h : (s.ask system path).1 = .ok declarations) (hpath : pathPieces path = pathPieces other)
    (history : List FileEvent) :
    (((s.ask system path).2.run system history).ask system other).1 = .ok declarations := by
  have hkept : (s.ask system path).2.cache.find? other = some declarations :=
    Cache.find?_of_fst_getOrParse h hpath
  rw [fst_ask, find?_run, hkept, Option.some_or]

/-! ### From the beginning -/

theorem files_ofHistory (start : φ) (history : List FileEvent) :
    (ofHistory system start history).files = system.afterAll start history := files_run _ history

theorem ofHistory_append (start : φ) (front back : List FileEvent) :
    ofHistory system start (front ++ back) = (ofHistory system start front).run system back :=
  List.foldl_append

/-- The answer is the first good version, or what reading and parsing give now. -/
theorem answer_eq (start : φ) (history : List FileEvent) (path : String) :
    answer system start history path =
      match system.firstGood? start path history with
      | some declarations => .ok declarations
      | none => Reading.declarations (system.read (system.afterAll start history)) path := by
  have hfind : (ofHistory system start history).cache.find? path =
      system.firstGood? start path history := find?_run ⟨start, .empty⟩ path history
  rw [answer, fst_ask, hfind, files_ofHistory]

/-! ### Answered paths -/

/-- The last event of a history answers a path if it asks for it with success. -/
theorem mem_answered_concat {pieces : List String} {event : FileEvent} :
    pieces ∈ answered system start (history ++ [event]) ↔
      pieces ∈ answered system start history ∨
        ∃ path declarations, event = .ask path ∧
          answer system start history path = .ok declarations ∧ pieces = pathPieces path := by
  constructor
  · rintro ⟨front, path, back, declarations, hhistory, hanswer, hpieces⟩
    -- nothing stands behind the successful call, or it is a call of the shorter history
    rcases List.eq_nil_or_concat back with rfl | ⟨back, last, rfl⟩
    · obtain ⟨rfl, hevent⟩ := List.append_inj' hhistory rfl
      exact Or.inr ⟨path, declarations, List.head_eq_of_cons_eq hevent, hanswer, hpieces⟩
    · rw [List.concat_eq_append, ← List.cons_append, ← List.append_assoc] at hhistory
      obtain ⟨rfl, -⟩ := List.append_inj' hhistory rfl
      exact Or.inl ⟨front, path, back, declarations, rfl, hanswer, hpieces⟩
  · rintro (⟨front, path, back, declarations, rfl, hanswer, hpieces⟩ |
      ⟨path, declarations, rfl, hanswer, hpieces⟩)
    · exact ⟨front, path, back ++ [event], declarations, by simp, hanswer, hpieces⟩
    · exact ⟨history, path, [], declarations, rfl, hanswer, hpieces⟩

/-- The cache keeps the paths that were answered. -/
theorem mem_paths_ofHistory {pieces : List String} :
    pieces ∈ (ofHistory system start history).cache.paths ↔
      pieces ∈ answered system start history := by
  -- from the end, because an answer depends on the history in front of it
  induction history using List.reverseRecOn with
  | nil => simp [ofHistory, run, Cache.empty, Cache.paths, answered]
  | append_singleton history event ih =>
    rw [ofHistory_append, mem_answered_concat, ← ih]
    cases event with
    | make made => simp [run, step]
    | write written contents => simp [run, step]
    | ask asked =>
      refine (Cache.mem_paths_getOrParse _ _ _ _).trans (or_congr_right ?_)
      simp only [FileEvent.ask.injEq, exists_and_left, exists_eq_left']
      rfl

/-! ## The first good version wins -/

/-- What a cache answers for every history of writes and calls, over a file system that starts in a
given state. -/
structure FirstGoodWins (system : FileSystem φ) (start : φ) : Prop where
  /-- The answer for a path is what reading and parsing gave at the first call for the path where
  they succeeded, or what they give now if there was none. -/
  answer_eq : ∀ history path, answer system start history path =
    match system.firstGood? start path history with
    | some declarations => .ok declarations
    | none => Reading.declarations (system.read (system.afterAll start history)) path
  /-- An answer is given again at every later call for the path. -/
  stays : ∀ front path declarations, answer system start front path = .ok declarations →
    ∀ back other, pathPieces path = pathPieces other →
      answer system start (front ++ .ask path :: back) other = .ok declarations
  /-- A failure is the one of reading and parsing now, and leaves nothing behind. -/
  failure : ∀ history path error, answer system start history path = .error error →
    Reading.declarations (system.read (system.afterAll start history)) path = .error error ∧
      ofHistory system start (history ++ [.ask path]) = ofHistory system start history
  /-- Calls for other paths do not matter. -/
  ask_elsewhere : ∀ front other back path, pathPieces other ≠ pathPieces path →
    answer system start (front ++ .ask other :: back) path =
      answer system start (front ++ back) path
  /-- Where contents are kept at places, writes to other files do not matter, but for the reason why
  a file cannot be read. The file may be in the way of directories, so none are made later on. -/
  write_elsewhere : ∀ {κ : Type} [DecidableEq κ] (places : Places φ κ), system.Keeps places →
    ∀ front written contents back path, (∀ event ∈ back, ¬ event.Makes) →
      (∀ asked, pathPieces asked = pathPieces path →
        places.Apart (system.afterAll start front) asked written) →
      SameButReason path (answer system start (front ++ back) path)
        (answer system start (front ++ .write written contents :: back) path)
  /-- The reason is the same as well if the path does not lead through the file that is written. -/
  write_clear : ∀ {κ : Type} [DecidableEq κ] (places : Places φ κ), system.Keeps places →
    ∀ front written contents back path, (∀ event ∈ back, ¬ event.Makes) →
      (∀ asked, pathPieces asked = pathPieces path →
        places.Apart (system.afterAll start front) asked written) →
      places.Clear (system.afterAll start front) path written →
      answer system start (front ++ .write written contents :: back) path =
        answer system start (front ++ back) path
  /-- The cache keeps as many entries as there are paths that were answered. -/
  size_eq : ∀ history,
    (ofHistory system start history).cache.size = (answered system start history).ncard

/-- An answer is kept, so it is given again. -/
theorem answer_of_answer {declarations : List Declaration} {other : String}
    (h : answer system start history path = .ok declarations)
    (hpath : pathPieces path = pathPieces other) (back : List FileEvent) :
    answer system start (history ++ .ask path :: back) other = .ok declarations := by
  rw [answer, ofHistory_append]
  exact ask_of_ask h hpath back

/-- The answer after two histories, the first of which is shared with other runs. -/
theorem answer_append (start : φ) (front back : List FileEvent) (path : String) :
    answer system start (front ++ back) path =
      match (system.firstGood? start path front).or
        (system.firstGood? (system.afterAll start front) path back) with
      | some declarations => .ok declarations
      | none => Reading.declarations
          (system.read (system.afterAll (system.afterAll start front) back)) path := by
  rw [answer_eq, FileSystem.firstGood?_append, FileSystem.afterAll_append]

/-- A call for another path is as if it had not been. -/
theorem answer_ask_of_ne {front back : List FileEvent} {other : String}
    (h : pathPieces other ≠ pathPieces path) :
    answer system start (front ++ .ask other :: back) path =
      answer system start (front ++ back) path := by
  have hother : system.good? (system.afterAll start front) path (.ask other) = none := if_neg h
  rw [answer_append, answer_append, FileSystem.firstGood?, hother, Option.none_or]
  rfl

section Writes

variable {κ : Type} [DecidableEq κ] {places : Places φ κ} {front back : List FileEvent}
  {written : String} {contents : ByteArray} (keeps : system.Keeps places)
  (hback : ∀ event ∈ back, ¬ event.Makes)
  (apart : ∀ asked, pathPieces asked = pathPieces path →
    places.Apart (system.afterAll start front) asked written)

include keeps hback

/-- With a write and without it, what follows leads to files that differ in the place written. -/
theorem agreeBut_write :
    places.AgreeBut (places.target? (places.layout (system.afterAll start front)) written)
      (system.afterAll (system.afterAll start front) back)
      (system.afterAll (system.afterAll start front) (.write written contents :: back)) :=
  keeps.afterAll_agreeBut (keeps.agreeBut_write _ written contents) hback

include apart

/-- The good versions of a path are the same with and without a write to another file. -/
theorem firstGood?_write :
    system.firstGood? (system.afterAll start front) path (.write written contents :: back) =
      system.firstGood? (system.afterAll start front) path back := by
  rw [FileSystem.firstGood?, FileSystem.good?, Option.none_or]
  exact keeps.firstGood?_agreeBut (keeps.agreeBut_write _ written contents) hback apart

/-- A write to another file changes an answer in the reason of a failure at most. -/
theorem sameButReason_write :
    SameButReason path (answer system start (front ++ back) path)
      (answer system start (front ++ .write written contents :: back) path) := by
  rw [answer_append, answer_append, firstGood?_write keeps hback apart]
  split
  · exact Or.inl rfl
  · refine Reading.sameButReason_declarations
      (keeps.toOption_read_eq (agreeBut_write keeps hback) ?_)
    rw [keeps.layout_afterAll _ hback]
    exact apart path rfl

/-- A write to a file that the path does not meet is as if it had not been. -/
theorem answer_write (clear : places.Clear (system.afterAll start front) path written) :
    answer system start (front ++ .write written contents :: back) path =
      answer system start (front ++ back) path := by
  rw [answer_append, answer_append, firstGood?_write keeps hback apart]
  split
  · rfl
  · refine Reading.declarations_congr (keeps.read_agreeBut (agreeBut_write keeps hback) ?_)
    rw [keeps.layout_afterAll _ hback]
    exact clear

end Writes

end CachedFiles

/-! ## Files in a directory -/

namespace Cabinet

/-- A disk with an empty directory. -/
def disk : Disk := ⟨[], [["d"]], .empty⟩

/-- Bytes that are not a script. -/
def broken : ByteArray := "?".toUTF8

/-- A script with one unit. -/
def good : ByteArray := "class A \x7b \x7d".toUTF8

/-- What the script declares. -/
def declaration : Declaration := ⟨⟨"A"⟩, .concreteClass, none, [], []⟩

/-- A file that is asked for before it is repaired. -/
def repaired : List FileEvent := [.write "d/x" broken, .ask "d/x", .write "d/x" good]

theorem declarations_good : Payload.declarations good = .ok [declaration] := by
  rw [good, Payload.declarations_toUTF8]
  exact Except.toOption_eq_some_iff.1 (by decide +kernel)

theorem declarations_broken : (Payload.declarations broken).toOption = none := by
  rw [broken, Payload.declarations_toUTF8]
  decide +kernel

/-- What is written at a path first is read there. -/
theorem read_written (contents : ByteArray) :
    Disk.system.read (Disk.system.after disk (.write "d/x" contents)) "d/x" = .ok contents := rfl

/-- The first call fails. -/
theorem answer_broken : (CachedFiles.answer Disk.system disk [.write "d/x" broken] "d/x").toOption =
    none := by
  have hnone : Disk.system.firstGood? disk "d/x" [.write "d/x" broken] = none := rfl
  rw [CachedFiles.answer_eq, hnone]
  exact (Reading.toOption_declarations _ _).trans declarations_broken

/-- And after it the repaired file is read. -/
theorem answer_repaired :
    CachedFiles.answer Disk.system disk repaired "d/x" = .ok [declaration] := by
  have hread : Disk.system.read (Disk.system.afterAll disk repaired) "d/x" = .ok good := rfl
  -- the only call in the history is in front of the repair
  have hfails : Disk.system.good? (Disk.system.after disk (.write "d/x" broken)) "d/x"
      (.ask "d/x") = none := by
    rw [FileSystem.good?, if_pos rfl, Reading.toOption_declarations, read_written]
    exact declarations_broken
  have hnone : Disk.system.firstGood? disk "d/x" repaired = none := by
    rw [repaired, FileSystem.firstGood?, FileSystem.firstGood?, hfails]
    rfl
  rw [CachedFiles.answer_eq, hnone]
  dsimp only
  rw [Reading.declarations, Reading.contents, hread]
  exact declarations_good

/-- Neither path leads to or through the file at the other. -/
theorem clear : Disk.places.Clear disk "d/x" "d/y" := by
  have hlanding : disk.bare.landing "d/x" = .ok (.entry ["d"] "x") := rfl
  have htarget : (disk.bare.target "d/y").toOption = some ["d", "y"] := rfl
  rintro way ⟨landing, hlands, hway⟩ hwritten
  cases hlanding.symm.trans hlands
  have hsame : some ["d", "x"] = some ["d", "y"] := hway.trans (hwritten.symm.trans htarget)
  exact absurd hsame (by decide)

theorem apart {asked : String} (h : pathPieces asked = pathPieces "d/x") :
    Disk.places.Apart disk asked "d/y" :=
  Disk.apart_of_clear rfl clear h

end Cabinet

namespace CachedFiles

open Cabinet

end CachedFiles

end Linkage
