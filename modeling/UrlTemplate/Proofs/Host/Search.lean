import Mathlib.Control.Monad.Basic
import UrlTemplate.Host.Configuration
import UrlTemplate.Proofs.Host.Location

/-!
# The directory that configuration is read from

Going up from the working directory, the search takes the first thing called `config` that it comes
to (`Configuration.search_cases`). If that is a directory, its files are read
(`Configuration.read_of_reached`); if it is a file, or if there is no such thing, nothing is read
(`Configuration.read_of_unreached`).

**Theorem** (`Configuration.read_of_nearest`): what is read, in terms of the nearest directory
called `config`. The search comes to it if it is on one of the levels searched and no file with that
name is nearer, and then the files in it decide alone.
-/

namespace UrlTemplate.Configuration

open Files (maxNameBytes maxLocationBytes writtenFault?)

/-! ### Finding below a directory -/

section Find

variable {files : Files} {place names : List String} {name : String}

/-- What plain names lead to from the root is what is found. -/
theorem find_plain (hplain : ∀ name ∈ names, IsPlainName name)
    (hwritten : writtenFault? (⟨.root, names⟩ : Location).text = none) :
    find files ⟨.root, names⟩ = .ok (files.root.at? names) := by
  rw [find, Files.node_root hwritten]
  cases hat : files.root.at? names with
  | some node =>
    have hfollow : Files.follow files.root [] names = .ok names :=
      Files.follow_plain [] hplain (by rw [List.nil_append, hat]; rfl)
    simp only [hfollow, Except.bind, hat, Option.elim_some]
  | none =>
    rcases Files.follow_plain_missing [] hplain rfl hat with h | h <;> rw [h] <;> rfl

/-- Behind plain names a last name is followed from where they lead. -/
theorem follow_below (hplain : ∀ name ∈ place, IsPlainName name)
    (hat : (files.root.at? place).isSome) (name : String) :
    Files.follow files.root [] (place ++ [name]) = Files.follow files.root place [name] := by
  rw [Files.follow_append, Files.follow_plain [] hplain hat]
  rfl

/-- Nothing is found below a file. -/
theorem find_below_file {text : String} (hplain : ∀ name ∈ place, IsPlainName name)
    (hat : files.root.at? place = some (.file text))
    (hwritten : writtenFault? (⟨.root, place ++ [name]⟩ : Location).text = none) :
    find files ⟨.root, place ++ [name]⟩ = .ok none := by
  rw [find, Files.node_root hwritten, follow_below hplain (by rw [hat]; rfl), Files.follow, hat]
  rfl

/-- In a directory the entry with a name is found. -/
theorem find_entry {entries : List (String × Node)} (hplain : ∀ name ∈ place, IsPlainName name)
    (hat : files.root.at? place = some (.directory entries)) (hname : IsPlainName name)
    (hwritten : writtenFault? (⟨.root, place ++ [name]⟩ : Location).text = none) :
    find files ⟨.root, place ++ [name]⟩ = .ok (entries.lookup name) := by
  have hall : ∀ other ∈ place ++ [name], IsPlainName other :=
    List.forall_mem_append.mpr ⟨hplain, List.forall_mem_singleton.mpr hname⟩
  rw [find_plain hall hwritten, Node.at?_concat hat]

/-- In a directory it is a fault to look for a name that is too long. -/
theorem find_oversize {entries : List (String × Node)} (hplain : ∀ name ∈ place, IsPlainName name)
    (hat : files.root.at? place = some (.directory entries))
    (hlong : maxNameBytes < name.utf8ByteSize)
    (hwritten : writtenFault? (⟨.root, place ++ [name]⟩ : Location).text = none) :
    find files ⟨.root, place ++ [name]⟩ =
      .error (.file ⟨.tooLong, (⟨.root, place ++ [name]⟩ : Location).text⟩) := by
  rw [find, Files.node_root hwritten, follow_below hplain (by rw [hat]; rfl), Files.follow, hat]
  simp only [if_pos hlong, Except.bind]

/-- Nothing is found below a directory that is missing from the working directory. -/
theorem find_missing {directory : String} (hdirectory : IsPlainName directory)
    (hat : files.root.at? (files.current ++ [directory]) = none)
    (hwritten : writtenFault? (⟨.here, [directory, name]⟩ : Location).text = none) :
    find files ⟨.here, [directory, name]⟩ = .ok none := by
  have hfollow : Files.follow files.root files.current [directory] = .error .missing ∨
      Files.follow files.root files.current [directory] = .error .notADirectory := by
    cases hcurrent : files.root.at? files.current with
    | none =>
      rw [Files.follow, hcurrent]
      exact .inl rfl
    | some node =>
      exact Files.follow_plain_missing _ (List.forall_mem_singleton.mpr hdirectory)
        (by rw [hcurrent]; rfl) hat
  have hresolve : files.resolve ⟨.here, [directory, name]⟩ =
      Files.follow files.root files.current ([directory] ++ [name]) := by
    rw [Files.resolve, hwritten]
    rfl
  rw [find, Files.node, hresolve, Files.follow_append]
  rcases hfollow with h | h <;> rw [h] <;> rfl

end Find

/-! ### Reading what is found -/

section Read

variable {env : Environment} {files : Files} {l : Location} {fields : Fields}

/-- What the file with a name in a directory provides: its fields, or none if there is no such
file. -/
inductive Provides (entries : List (String × Node)) (name : String) : Fields → Prop
  | nothing (h : entries.lookup name = none) : Provides entries name []
  | file {text : String} {fields : Fields} (h : entries.lookup name = some (.file text))
    (hread : Toml.read text = .ok fields) : Provides entries name fields

/-- What the file at a location provides: its fields, or none if nothing is found there. -/
inductive Found (files : Files) (l : Location) : Fields → Prop
  | nothing (h : find files l = .ok none) : Found files l []
  | file {text : String} {fields : Fields} (h : find files l = .ok (some (.file text)))
    (hread : Toml.read text = .ok fields) : Found files l fields

/-- A file that is found is read. -/
theorem Found.readOptional (h : Found files l fields) : readOptional files l = .ok fields := by
  cases h with
  | nothing h =>
    rw [Configuration.readOptional, h]
    rfl
  | file h hread =>
    rw [Configuration.readOptional, h]
    change readToml files l = .ok fields
    rw [readToml, h]
    change (Toml.read _).mapError _ = _
    rw [hread]
    rfl

/-- What a directory provides is found where its entries are. -/
theorem Provides.found {entries : List (String × Node)} {name : String}
    (h : Provides entries name fields) (hfind : find files l = .ok (entries.lookup name)) :
    Found files l fields := by
  cases h with
  | nothing hnone => exact .nothing (hfind.trans (congrArg Except.ok hnone))
  | file hfile hread => exact .file (hfind.trans (congrArg Except.ok hfile)) hread

/-- A file that is not found counts as empty. -/
theorem readOptional_of_missing (h : find files l = .ok none) : readOptional files l = .ok [] :=
  Found.readOptional (.nothing h)

/-- What cannot be looked for cannot be read. -/
theorem readOptional_of_error {e : ConfigurationError} (h : find files l = .error e) :
    readOptional files l = .error e := by
  rw [readOptional, h]
  rfl

/-- Reading merges what the two files in the directory provide. -/
theorem read_of_directory {directory : Location} {defaults : Fields}
    (h : Configuration.directory env files = .ok directory)
    (hdefaults : readOptional files (directory.append "default.toml") = .ok defaults) :
    read env files =
      (readOptional files (directory.append (deployment env ++ ".toml"))).map
        (Fields.merge defaults) := by
  rw [read, h]
  change (do
    let defaults ← readOptional files (directory.append "default.toml")
    let overrides ← readOptional files (directory.append (deployment env ++ ".toml"))
    return Fields.merge defaults overrides) = _
  rw [hdefaults]
  cases readOptional files (directory.append (deployment env ++ ".toml")) <;> rfl

end Read

/-! ### The search -/

section Search

variable {files : Files} {level : Nat}

/-- The path of what is called `config` in the directory some levels above another; the root is
above itself. -/
def candidate (path : List String) (level : Nat) : List String :=
  path.take (path.length - level) ++ ["config"]

/-- On the lowest level it is in the directory itself. -/
theorem candidate_zero (path : List String) : candidate path 0 = path ++ ["config"] := by
  rw [candidate, Nat.sub_zero, List.take_length]

/-- On a higher level it is on the level below, seen from the directory above. -/
theorem candidate_succ (path : List String) (level : Nat) :
    candidate path (level + 1) = candidate path.dropLast level := by
  rw [candidate, candidate, List.length_dropLast, List.dropLast_eq_take, List.take_take]
  congr 2
  omega

/-- Going up is trying the levels in their order. -/
theorem nearest?_eq {path : List String} (depth : Nat)
    (hfind : ∀ level, find files ⟨.root, candidate path level⟩ =
      .ok (files.root.at? (candidate path level))) :
    nearest? files depth path =
      .ok (((List.range depth).find? fun level =>
        (files.root.at? (candidate path level)).isSome).map (candidate path)) := by
  induction depth generalizing path with
  | zero => rfl
  | succ depth ih =>
    have hzero := hfind 0
    rw [candidate_zero] at hzero
    rw [nearest?, hzero, List.range_succ_eq_map]
    cases hat : files.root.at? (path ++ ["config"]) with
    | some node =>
      rw [List.find?_cons_of_pos (by rw [candidate_zero, hat]; rfl), Option.map_some,
        candidate_zero]
      rfl
    | none =>
      rw [List.find?_cons_of_neg (by rw [candidate_zero, hat]; exact Bool.false_ne_true),
        List.find?_map, Option.map_map]
      change nearest? files depth path.dropLast = _
      rw [ih fun level => by rw [← candidate_succ]; exact hfind (level + 1)]
      simp only [Function.comp_def, candidate_succ]

/-- The search comes to a level: it is one of those searched, and nothing nearer is called
`config`. -/
structure Reached (files : Files) (level : Nat) : Prop where
  lt : level < searchDepth
  nothing_nearer : ∀ nearer < level, files.root.at? (candidate files.current nearer) = none

/-- On at most one of the levels that the search comes to there is something. -/
theorem Reached.unique {other : Nat} (h : Reached files level) (hother : Reached files other)
    (hat : files.root.at? (candidate files.current level) ≠ none)
    (hat' : files.root.at? (candidate files.current other) ≠ none) : level = other := by
  rcases Nat.lt_trichotomy level other with hlt | heq | hlt
  · exact absurd (hother.nothing_nearer level hlt) hat
  · exact heq
  · exact absurd (h.nothing_nearer other hlt) hat'

/-- What the search comes to: something called `config` on a level that is reached, or nothing, and
then the configuration would be in the working directory. -/
theorem search_cases
    (hfind : ∀ level, find files ⟨.root, candidate files.current level⟩ =
      .ok (files.root.at? (candidate files.current level))) :
    (∃ level node, Reached files level ∧
      files.root.at? (candidate files.current level) = some node ∧
      search files = .ok ⟨.root, candidate files.current level⟩) ∨
    ((∀ level < searchDepth, files.root.at? (candidate files.current level) = none) ∧
      search files = .ok ⟨.here, ["config"]⟩) := by
  have hsearch := nearest?_eq searchDepth hfind
  cases hfirst : (List.range searchDepth).find? fun level =>
      (files.root.at? (candidate files.current level)).isSome with
  | some level =>
    obtain ⟨hsome, hmem, hnearer⟩ := List.find?_range_eq_some.mp hfirst
    obtain ⟨node, hnode⟩ := Option.isSome_iff_exists.mp hsome
    refine .inl ⟨level, node, ⟨List.mem_range.mp hmem, fun nearer hlt => ?_⟩, hnode, ?_⟩
    · simpa using hnearer nearer hlt
    · rw [search, hsearch, hfirst]
      rfl
  | none =>
    refine .inr ⟨fun level hlt => ?_, ?_⟩
    · simpa using List.find?_eq_none.mp hfirst level (List.mem_range.mpr hlt)
    · rw [search, hsearch, hfirst]
      rfl

end Search

/-! ### Where locations can be looked up -/

/-- The names of the files that count. -/
def fileNames (env : Environment) : List String :=
  ["default.toml", deployment env ++ ".toml"]

/-- The files that count can be looked for from the working directory: it has a path of plain names,
the deployment is part of a file's name, and there is room to write the locations down. -/
structure Searchable (env : Environment) (files : Files) : Prop where
  current : ∀ name ∈ files.current, IsPlainName name
  not_slash : '/' ∉ (deployment env).toList
  not_null : '\x00' ∉ (deployment env).toList
  fits : ∀ file ∈ fileNames env,
    (⟨.root, files.current ++ ["config", file]⟩ : Location).text.utf8ByteSize ≤ maxLocationBytes

namespace Searchable

variable {env : Environment} {files : Files} {file : String}

/-- The files that count have a name with an ending. -/
theorem exists_stem (h : Searchable env files) (hfile : file ∈ fileNames env) :
    ∃ stem, file = stem ++ ".toml" ∧ '/' ∉ stem.toList ∧ '\x00' ∉ stem.toList := by
  rcases List.mem_cons.mp hfile with rfl | hfile
  · exact ⟨"default", by decide⟩
  · exact ⟨deployment env, List.mem_singleton.mp hfile, h.not_slash, h.not_null⟩

/-- The ending makes the name of a file longer than a name with a meaning of its own. -/
theorem ne_of_short (h : Searchable env files) (hfile : file ∈ fileNames env) {other : String}
    (hshort : other.utf8ByteSize < 5) : file ≠ other := by
  obtain ⟨stem, rfl, -⟩ := h.exists_stem hfile
  rintro rfl
  rw [String.utf8ByteSize_append] at hshort
  exact absurd hshort (Nat.not_lt.mpr (Nat.le_add_left 5 _))

/-- Each of the files is directly in the directory. -/
theorem append_eq (h : Searchable env files) (hfile : file ∈ fileNames env) (directory : Location) :
    directory.append file = { directory with names := directory.names ++ [file] } := by
  have hslash : '/' ∉ file.toList := by
    obtain ⟨stem, rfl, hslash, -⟩ := h.exists_stem hfile
    rw [String.toList_append, List.mem_append]
    exact not_or.mpr ⟨hslash, by decide⟩
  exact Location.append_of_not_mem (h.ne_of_short hfile (by decide))
    (h.ne_of_short hfile (by decide)) hslash directory

/-- The names of the files can be written down. -/
theorem file_not_null (h : Searchable env files) (hfile : file ∈ fileNames env) :
    '\x00' ∉ file.toList := by
  obtain ⟨stem, rfl, -, hnull⟩ := h.exists_stem hfile
  rw [String.toList_append, List.mem_append]
  exact not_or.mpr ⟨hnull, by decide⟩

/-- A file that counts has a plain name unless it is too long. -/
theorem plain_file (h : Searchable env files) (hfile : file ∈ fileNames env)
    (hsize : file.utf8ByteSize ≤ maxNameBytes) : IsPlainName file :=
  ⟨h.ne_of_short hfile (by decide), h.file_not_null hfile, hsize⟩

/-- Locations made of some of the names can be written down. -/
theorem writtenFault?_eq (h : Searchable env files) (hfile : file ∈ fileNames env) {l : Location}
    (hanchor : l.anchor = .here ∨ l.anchor = .root)
    (hsub : l.names.Sublist (files.current ++ ["config", file])) :
    writtenFault? l.text = none := by
  refine Files.writtenFault?_of_sublist hanchor hsub ?_ (h.fits file hfile)
  refine List.forall_mem_append.mpr ⟨fun name hname => (h.current name hname).not_null, ?_⟩
  exact List.forall_mem_cons.mpr
    ⟨by decide, List.forall_mem_singleton.mpr (h.file_not_null hfile)⟩

/-- Everything that is called `config` at or above the working directory has a plain path. -/
theorem plain_candidate (h : Searchable env files) (level : Nat) :
    ∀ name ∈ candidate files.current level, IsPlainName name := by
  refine List.forall_mem_append.mpr ⟨fun name hname => ?_, List.forall_mem_singleton.mpr ?_⟩
  · exact h.current name (List.mem_of_mem_take hname)
  · exact ⟨by decide, by decide, by decide⟩

/-- A file on any level can be written down. -/
theorem writtenFault?_candidate (h : Searchable env files) (hfile : file ∈ fileNames env)
    (level : Nat) :
    writtenFault? (⟨.root, candidate files.current level ++ [file]⟩ : Location).text = none := by
  refine h.writtenFault?_eq hfile (.inr rfl) ?_
  rw [candidate, List.append_assoc]
  exact (List.take_sublist _ _).append (List.Sublist.refl _)

/-- What is called `config` on a level is found there. -/
theorem find_candidate (h : Searchable env files) (level : Nat) :
    find files ⟨.root, candidate files.current level⟩ =
      .ok (files.root.at? (candidate files.current level)) := by
  refine find_plain (h.plain_candidate level) ?_
  refine h.writtenFault?_eq List.mem_cons_self (.inr rfl) ?_
  have hconfig : ["config"].Sublist ["config", "default.toml"] := by simp
  exact (List.take_sublist _ _).append hconfig

end Searchable

/-! ### What is read -/

/-- A directory called `config` on a level, and nearer ones have no directory of that name. -/
structure IsNearest (files : Files) (level : Nat) (entries : List (String × Node)) : Prop where
  at_level : files.root.at? (candidate files.current level) = some (.directory entries)
  not_nearer : ∀ nearer < level, ∀ others,
    files.root.at? (candidate files.current nearer) ≠ some (.directory others)

section Main

variable {env : Environment} {files : Files} {level : Nat} {entries : List (String × Node)}

/-- Without a variable that names it, the directory is searched for. -/
theorem directory_of_unset
    (h : env.lookup directoryVariable = none ∨ env.lookup directoryVariable = some "") :
    directory env files = search files := by
  rcases h with h | h <;> simp only [directory, h]

/-- A variable that is set names the directory, which has to be there. -/
theorem directory_of_set {written : String} {node : Node}
    (h : env.lookup directoryVariable = some written) (hne : written ≠ "")
    (hfind : find files (.parse written) = .ok (some node)) :
    directory env files = .ok (.parse written) := by
  simp only [directory, h, hfind, bind, Except.bind]

/-- Nothing is read if none of the files is found. -/
theorem read_eq_nil {d : Location} (h : Searchable env files) (hd : directory env files = .ok d)
    (hfind : ∀ file ∈ fileNames env, find files { d with names := d.names ++ [file] } = .ok none) :
    read env files = .ok [] := by
  have hnone : ∀ file ∈ fileNames env, readOptional files (d.append file) = .ok [] := by
    intro file hfile
    rw [h.append_eq hfile]
    exact readOptional_of_missing (hfind file hfile)
  rw [read_of_directory hd (hnone _ (by simp [fileNames])), hnone _ (by simp [fileNames])]
  rfl

/-- Nothing is read if the search comes to no directory. -/
theorem read_of_unreached
    (hunset : env.lookup directoryVariable = none ∨ env.lookup directoryVariable = some "")
    (h : Searchable env files)
    (hnone : ∀ level entries, Reached files level →
      files.root.at? (candidate files.current level) ≠ some (.directory entries)) :
    read env files = .ok [] := by
  rcases search_cases h.find_candidate with ⟨level, node, hreached, hat, hsearch⟩ |
    ⟨hnothing, hsearch⟩
  · refine read_eq_nil h ((directory_of_unset hunset).trans hsearch) fun file hfile => ?_
    cases node with
    | directory entries => exact absurd hat (hnone level entries hreached)
    | file text =>
      exact find_below_file (h.plain_candidate level) hat (h.writtenFault?_candidate hfile level)
  · refine read_eq_nil h ((directory_of_unset hunset).trans hsearch) fun file hfile => ?_
    have hzero := hnothing 0 (by decide)
    rw [candidate_zero] at hzero
    refine find_missing ⟨by decide, by decide, by decide⟩ hzero ?_
    exact h.writtenFault?_eq hfile (.inl rfl) (List.sublist_append_right _ _)

/-- In a directory that the search comes to the two files are read. -/
theorem read_of_reached {defaults : Fields}
    (hunset : env.lookup directoryVariable = none ∨ env.lookup directoryVariable = some "")
    (h : Searchable env files) (hreached : Reached files level)
    (hat : files.root.at? (candidate files.current level) = some (.directory entries))
    (hdefaults : Provides entries "default.toml" defaults) :
    read env files =
      (readOptional files
        ⟨.root, candidate files.current level ++ [deployment env ++ ".toml"]⟩).map
          (Fields.merge defaults) := by
  have hsearch : search files = .ok ⟨.root, candidate files.current level⟩ := by
    rcases search_cases h.find_candidate with ⟨other, node, hother, hat', hsearch⟩ | ⟨hnothing, -⟩
    · rw [hreached.unique hother (by simp [hat]) (by simp [hat'])]
      exact hsearch
    · rw [hnothing level hreached.lt] at hat
      cases hat
  have hfile : "default.toml" ∈ fileNames env := by simp [fileNames]
  have hfile' : deployment env ++ ".toml" ∈ fileNames env := by simp [fileNames]
  have hfind := find_entry (h.plain_candidate level) hat ⟨by decide, by decide, by decide⟩
    (h.writtenFault?_candidate hfile level)
  have hread : readOptional files
      (Location.append ⟨.root, candidate files.current level⟩ "default.toml") = .ok defaults := by
    rw [h.append_eq hfile]
    exact (hdefaults.found hfind).readOptional
  rw [read_of_directory ((directory_of_unset hunset).trans hsearch) hread, h.append_eq hfile']

/-- What the files and the environment give as the configuration. -/
inductive Gives (env : Environment) (files : Files) : Fields → Prop
  /-- The search comes to a directory, in which the defaults are overridden by the file of the
  deployment. -/
  | searched {level : Nat} {entries : List (String × Node)} {defaults overrides : Fields}
      (hunset : env.lookup directoryVariable = none ∨ env.lookup directoryVariable = some "")
      (h : Searchable env files) (hreached : Reached files level)
      (hat : files.root.at? (candidate files.current level) = some (.directory entries))
      (hdefaults : Provides entries "default.toml" defaults)
      (hshort : (deployment env ++ ".toml").utf8ByteSize ≤ maxNameBytes)
      (hoverrides : Provides entries (deployment env ++ ".toml") overrides) :
      Gives env files (Fields.merge defaults overrides)
  /-- The search comes to no directory. -/
  | nothing
      (hunset : env.lookup directoryVariable = none ∨ env.lookup directoryVariable = some "")
      (h : Searchable env files) (hnone : ∀ level entries, Reached files level →
        files.root.at? (candidate files.current level) ≠ some (.directory entries)) :
      Gives env files []
  /-- A variable names the directory. -/
  | named {written : String} {node : Node} {defaults overrides : Fields}
      (hset : env.lookup directoryVariable = some written) (hne : written ≠ "")
      (hfind : find files (.parse written) = .ok (some node))
      (hdefaults : Found files ((Location.parse written).append "default.toml") defaults)
      (hoverrides :
        Found files ((Location.parse written).append (deployment env ++ ".toml")) overrides) :
      Gives env files (Fields.merge defaults overrides)

/-- What the files and the environment give is what is read. -/
theorem Gives.read_eq {fields : Fields} (h : Gives env files fields) :
    read env files = .ok fields := by
  cases h with
  | searched hunset h hreached hat hdefaults hshort hoverrides =>
    have hfile : deployment env ++ ".toml" ∈ fileNames env := by simp [fileNames]
    have hfind := find_entry (h.plain_candidate _) hat (h.plain_file hfile hshort)
      (h.writtenFault?_candidate hfile _)
    rw [read_of_reached hunset h hreached hat hdefaults, (hoverrides.found hfind).readOptional]
    rfl
  | nothing hunset h hnone => exact read_of_unreached hunset h hnone
  | @named written node defaults overrides hset hne hfind hdefaults hoverrides =>
    rw [read_of_directory (directory_of_set hset hne hfind) hdefaults.readOptional,
      hoverrides.readOptional]
    rfl

/-- **Configuration is read from the nearest directory called `config`, if the search comes to it.**
There the defaults are overridden by the file of the deployment, whose name must not be too long to
be looked for, and the files of no other directory count. The search does not come to it if it is
five or more levels up, or if a file that is called `config` is nearer: then nothing is read, as if
there were no such directory. -/
theorem read_of_nearest
    (hunset : env.lookup directoryVariable = none ∨ env.lookup directoryVariable = some "")
    (h : Searchable env files) :
    (∀ level entries, IsNearest files level entries →
      (Reached files level → ∀ defaults, Provides entries "default.toml" defaults →
        ((deployment env ++ ".toml").utf8ByteSize ≤ maxNameBytes →
          ∀ overrides, Provides entries (deployment env ++ ".toml") overrides →
            read env files = .ok (Fields.merge defaults overrides)) ∧
        (maxNameBytes < (deployment env ++ ".toml").utf8ByteSize →
          read env files = .error (.file ⟨.tooLong, (⟨.root, candidate files.current level ++
            [deployment env ++ ".toml"]⟩ : Location).text⟩))) ∧
      (¬ Reached files level → read env files = .ok [])) ∧
    ((∀ level ≤ 5, ∀ entries, ¬ IsNearest files level entries) → read env files = .ok []) := by
  have hfile : deployment env ++ ".toml" ∈ fileNames env := by simp [fileNames]
  refine ⟨fun level entries hnearest => ⟨fun hreached defaults hdefaults => ⟨?_, ?_⟩, ?_⟩, ?_⟩
  · intro hshort overrides hoverrides
    exact Gives.read_eq
      (.searched hunset h hreached hnearest.at_level hdefaults hshort hoverrides)
  · intro hlong
    rw [read_of_reached hunset h hreached hnearest.at_level hdefaults,
      readOptional_of_error (find_oversize (h.plain_candidate level) hnearest.at_level hlong
        (h.writtenFault?_candidate hfile level))]
    rfl
  · intro hunreached
    refine read_of_unreached hunset h fun other others hother hat => ?_
    rcases Nat.lt_trichotomy other level with hlt | rfl | hlt
    · exact hnearest.not_nearer other hlt others hat
    · exact hunreached hother
    · have hnone := hother.nothing_nearer level hlt
      rw [hnearest.at_level] at hnone
      cases hnone
  · intro hnone
    refine read_of_unreached hunset h fun level entries hreached hat => ?_
    refine hnone level (Nat.le_of_lt hreached.lt) entries ⟨hat, fun nearer hlt others hat' => ?_⟩
    rw [hreached.nothing_nearer nearer hlt] at hat'
    cases hat'

/-- A deployment two levels below the directory with its configuration. -/
theorem read_of_nearest_two_levels_up :
    let config : List (String × Node) :=
      [("default.toml", .file "debug = true"), ("staging.toml", .file "level = 1")]
    let files : Files :=
      ⟨.directory [("config", .directory config), ("a", .directory [("b", .directory [])])],
        ["a", "b"]⟩
    let env : Environment := [(deploymentVariable, "staging")]
    (env.lookup directoryVariable = none ∨ env.lookup directoryVariable = some "") ∧
      Searchable env files ∧ IsNearest files 2 config ∧ Reached files 2 ∧
      read env files = .ok [("debug", .bool true), ("level", .int 1)] := by
  intro config files env
  have hunset : env.lookup directoryVariable = none ∨ env.lookup directoryVariable = some "" :=
    .inl rfl
  have h : Searchable env files := by
    refine ⟨?_, by decide, by decide, by decide⟩
    refine List.forall_mem_cons.mpr ⟨?_, List.forall_mem_singleton.mpr ?_⟩ <;>
      exact ⟨by decide, by decide, by decide⟩
  have hnone : ∀ nearer < 2, files.root.at? (candidate files.current nearer) = none := by
    have hall : ∀ nearer < 2, (files.root.at? (candidate files.current nearer)).isNone := by
      decide
    exact fun nearer hlt => Option.isNone_iff_eq_none.mp (hall nearer hlt)
  have hreached : Reached files 2 := ⟨by decide, hnone⟩
  have hnearest : IsNearest files 2 config := by
    refine ⟨rfl, fun nearer hlt others hat => ?_⟩
    rw [hnone nearer hlt] at hat
    cases hat
  have hdefaults : Provides config "default.toml" [("debug", .bool true)] :=
    .file rfl (by decide +kernel)
  have hoverrides : Provides config "staging.toml" [("level", .int 1)] :=
    .file rfl (by decide +kernel)
  exact ⟨hunset, h, hnearest, hreached, (((read_of_nearest hunset h).1 2 config hnearest).1 hreached
    _ hdefaults).1 (by decide) _ hoverrides⟩

/-- The nearest directory is not read five levels up, nor behind a file that is called like it. -/
theorem read_misses_nearest :
    let config : List (String × Node) := [("default.toml", .file "debug = true")]
    let inside (name : String) (node : Node) : Node := .directory [(name, node)]
    let distant : Files :=
      ⟨.directory [("config", .directory config),
        ("a", inside "b" (inside "c" (inside "d" (inside "e" (.directory [])))))],
        ["a", "b", "c", "d", "e"]⟩
    let hidden : Files :=
      ⟨.directory [("config", .directory config), ("a", inside "config" (.file ""))], ["a"]⟩
    Provides config "default.toml" [("debug", .bool true)] ∧
      Provides config "development.toml" [] ∧
      IsNearest distant 5 config ∧ IsNearest hidden 1 config ∧
      read [] distant = .ok [] ∧ read [] hidden = .ok [] ∧
      Fields.merge [("debug", .bool true)] [] ≠ [] := by
  intro config inside distant hidden
  have hdistant : ∀ nearer < 5, (distant.root.at? (candidate distant.current nearer)).isNone := by
    decide
  refine ⟨.file rfl (by decide +kernel), .nothing rfl,
    ⟨rfl, fun nearer hlt others hat => ?_⟩, ⟨rfl, fun nearer hlt others hat => ?_⟩,
    by decide +kernel, by decide +kernel,
    List.cons_ne_nil _ _⟩
  · rw [Option.isNone_iff_eq_none.mp (hdistant nearer hlt)] at hat
    cases hat
  · obtain rfl := Nat.lt_one_iff.mp hlt
    cases hat

end Main

end UrlTemplate.Configuration
