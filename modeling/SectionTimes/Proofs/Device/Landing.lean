import SectionTimes.Proofs.Device.Fetching

/-!
# Where the newest bugreport lands

The name of the newest bugreport comes from the device, and only its beginning and its end are
looked at before it is taken from the folder that it is to be fetched into.  What is before the last
slash in it is a way from the folder, and what is behind that slash is the name of the file at the
end of the way.  Without a slash the way is empty, and the file lands in the folder itself.
-/

namespace SectionTimes

namespace Device

open Files Text

variable {d : Device} {link : Link} {folder archive name path : String} {way : List String}

/-! ## Pulling -/

/-- How a pull ends.  A way is made for the file, and if there is no obstacle in it the bridge is
asked to put the file at the path, which is what a pull gives. -/
inductive Pulled (d : Device) (remote path : String) (link : Link) :
    EStateM.Result Failure Link String → Prop where
  | obstructed {files : Files} {place : String} {obstacle : Obstacle}
      (made : makeWay link.files path = (files, some (place, obstacle))) :
      Pulled d remote path link (.error (.host place obstacle) { link with files })
  | failed {files : Files} {e : Failure} {link' : Link}
      (made : makeWay link.files path = (files, none))
      (asked : (d.run ["pull", remote, path]).run { link with files } = .error e link') :
      Pulled d remote path link (.error e link')
  | fetched {files : Files} {output : String} {link' : Link} {log : Log}
      (made : makeWay link.files path = (files, none))
      (asked : (d.run ["pull", remote, path]).run { link with files } = .ok output link') :
      Pulled d remote path link (.ok path { link' with log })

theorem pulled_run_pull (d : Device) (remote path : String) (link : Link) :
    Pulled d remote path link ((d.pull remote path).run link) := by
  rw [run_pull]
  cases hmade : makeWay link.files path with
  | mk files obstacle =>
    cases obstacle with
    | some place => exact .obstructed hmade
    | none =>
      dsimp only
      cases hasked : (d.run ["pull", remote, path]).run { link with files } with
      | ok output link' => exact .fetched hmade hasked
      | error e link' => exact .failed hmade hasked

/-! ## Listing -/

theorem files_run (hsilent : (link.replies.head?.getD .silent).written? = none) (d : Device)
    (arguments : List String) : (endOf ((d.run arguments).run link)).files = link.files := by
  cases hopening : d.opening? with
  | none =>
    rw [run_of_opening?_eq_none hopening]
    rfl
  | some opening =>
    have hfiles := @files_ask (noting link (opening ++ arguments)) hsilent (opening ++ arguments)
    rw [run_of_opening?_eq_some hopening]
    cases hask : (ask (opening ++ arguments)).run (noting link (opening ++ arguments)) with
    | error e link' =>
      rw [hask] at hfiles
      exact hfiles
    | ok reply link' =>
      rw [hask] at hfiles
      cases reply with
      | exited code output errors written =>
        dsimp only
        split <;> exact hfiles
      | timedOut => exact hfiles
      | notStarted cause => exact hfiles

/-- A listing changes files of the host only if the bridge writes one. -/
theorem files_list (hsilent : (link.replies.head?.getD .silent).written? = none)
    (d : Device) (remote : Value) :
    (endOf ((d.list remote).run link)).files = link.files := by
  by_cases hword : remote.IsText ∨ remote.isTruthy = false
  · have hfiles := files_run hsilent d ["shell", "ls " ++ shellQuote (remote.text?.getD "")]
    rw [run_list (text?_cases hword)]
    cases hrun : (d.run ["shell", "ls " ++ shellQuote (remote.text?.getD "")]).run link with
    | ok output link' =>
      rw [hrun] at hfiles
      exact hfiles
    | error e link' =>
      rw [hrun] at hfiles
      exact hfiles
  · obtain ⟨htext, htruthy⟩ := not_or.1 hword
    rw [run_list_of_not_isText htext ((Bool.not_eq_false _).mp htruthy)]
    rfl

/-- An archive is chosen to be fetched: the listing went well and has no archive of a greater name,
and both folders are texts. -/
structure Chosen (d : Device) (remote folder : Value) (link listed : Link)
    (word place archive : String) : Prop where
  listing : ∃ names, (d.list remote).run link = .ok names listed ∧
    IsGreatest {name | name ∈ names ∧ Bugreport.isArchiveName name = true} archive
  remote : remote.text? = some word
  folder : folder = .text place

/-- The archive that is chosen is pulled. -/
theorem Chosen.run_pullNewest {remote folder : Value} {listed : Link} {word place : String}
    (h : Chosen d remote folder link listed word place archive) :
    (d.pullNewest remote folder).run link =
      (d.pull (Path.dropTrailingSlashes word ++ "/" ++ archive) (Path.join place archive)).run
        listed := by
  obtain ⟨⟨names, hlist, hgreatest⟩, hword, rfl⟩ := h
  unfold pullNewest
  rw [EStateM.run_bind, hlist]
  dsimp only
  rw [getLast?_sortedNames_filter_eq_some_iff.2 hgreatest]
  dsimp only
  rw [hword]
  rfl

/-- If no archive is chosen the run ends where the listing does. -/
theorem exists_run_pullNewest_eq_error {remote folder : Value}
    (h : ∀ listed word place archive, ¬ Chosen d remote folder link listed word place archive) :
    ∃ e, (d.pullNewest remote folder).run link =
      .error e (endOf ((d.list remote).run link)) := by
  unfold pullNewest
  rw [EStateM.run_bind]
  cases hlist : (d.list remote).run link with
  | error e listed => exact ⟨e, rfl⟩
  | ok names listed =>
    dsimp only
    cases hlast : (sortedNames (names.filter Bugreport.isArchiveName)).getLast? with
    | none => exact ⟨_, rfl⟩
    | some archive =>
      have hgreatest := getLast?_sortedNames_filter_eq_some_iff.1 hlast
      cases hword : remote.text? with
      | none => exact ⟨_, rfl⟩
      | some word =>
        cases folder with
        | text place => exact absurd ⟨⟨names, hlist, hgreatest⟩, hword, rfl⟩ (h _ _ _ _)
        | _ => exact ⟨_, rfl⟩

/-! ## Landing -/

/-- A path leads to something in a folder that is named like an archive. -/
def LandsIn (folder path : String) : Prop :=
  ∃ name, Bugreport.isArchiveName name = true ∧ lexically path = lexically folder ++ [name]

/-- The parts of the name of an archive before the last are a way from the folder that it is fetched
into, and the last is the name of a file at the end of the way. -/
structure Leads (folder archive : String) (way : List String) (name : String) : Prop where
  parts : Path.parts archive = way ++ [name]
  plain : IsPlain name
  place : lexically (Path.join folder archive) = way.foldl enter (lexically folder) ++ [name]

theorem exists_leads (harchive : Bugreport.isArchiveName archive = true) (folder : String) :
    ∃ way name, Leads folder archive way name := by
  obtain ⟨hbegin, hend⟩ := Bool.and_eq_true_iff.1 harchive
  have hrelative : Path.isAbsolute archive = false := by
    obtain ⟨rest, hrest⟩ := List.isPrefixOf_iff_prefix.1 hbegin
    unfold Path.isAbsolute
    rw [← hrest]
    rfl
  obtain ⟨way, name, hparts⟩ := Path.exists_parts_eq_concat archive
  have hname : Bugreport.archiveEnding <:+ name.toList :=
    Path.isSuffix_of_parts_eq_concat (by decide) (List.isSuffixOf_iff_suffix.1 hend) hparts
  have hmem : name ∈ Path.parts archive := by simp [hparts]
  have hplain : IsPlain name := by
    refine ⟨Path.slash_not_mem_of_mem_parts hmem, ?_, ?_, ?_⟩
    all_goals rintro rfl; exact absurd hname (by decide)
  refine ⟨way, name, hparts, hplain, ?_⟩
  rw [lexically_join_eq hrelative, hparts, List.foldl_concat, enter_of_isPlain hplain]

namespace Leads

theorem way_eq_nil_iff (h : Leads folder archive way name) :
    way = [] ↔ '/' ∉ archive.toList := by
  constructor
  · rintro rfl
    exact (Path.eq_of_parts_eq_singleton h.parts).2
  · intro hslash
    have hlength := congrArg List.length h.parts
    rw [Path.parts_eq_singleton hslash] at hlength
    simpa using hlength

/-- An archive lands in the folder just when the way leads back to it and the name is one of an
archive. -/
theorem landsIn_iff (h : Leads folder archive way name) :
    LandsIn folder (Path.join folder archive) ↔
      way.foldl enter (lexically folder) = lexically folder ∧
        Bugreport.isArchiveName name = true := by
  unfold LandsIn
  rw [h.place]
  constructor
  · rintro ⟨name', hname, heq⟩
    obtain ⟨hway, hlast⟩ := List.append_inj' heq rfl
    exact ⟨hway, List.singleton_inj.1 hlast ▸ hname⟩
  · rintro ⟨hway, hname⟩
    exact ⟨name, hname, by rw [hway]⟩

/-- The way is made, and nothing else. -/
theorem makeWay_eq (h : Leads folder archive way name) (files : Files) :
    makeWay files (Path.join folder archive) =
      if (pathOf (way.foldl enter (lexically folder))).isEmpty then (files, none)
      else files.makeFolders (pathOf (way.foldl enter (lexically folder))) := by
  unfold makeWay
  rw [h.place, above_concat h.plain]

/-- A way on which nothing leads up leads to somewhere below the folder. -/
theorem isPrefix (h : Leads folder archive way name) (hup : ".." ∉ way) :
    lexically folder <+: lexically (Path.join folder archive) := by
  rw [h.place]
  exact (isPrefix_foldl_enter hup _).trans (List.prefix_append _ _)

/-- Without a slash an archive lands in the folder under its own name. -/
theorem place_of_slash_not_mem (h : Leads folder archive way name)
    (hslash : '/' ∉ archive.toList) :
    way = [] ∧ lexically (Path.join folder archive) = lexically folder ++ [archive] := by
  obtain rfl := h.way_eq_nil_iff.2 hslash
  obtain ⟨rfl, -⟩ := Path.eq_of_parts_eq_singleton h.parts
  exact ⟨rfl, h.place⟩

end Leads

/-- The archive of the greatest name in a listing is pulled: a way is made to one path, the bridge
is asked to put the file there, and the path is given back.  The path leads into the folder, to the
name of an archive, if there is no slash in the name of the archive, and otherwise just if the way
that the name describes leads back to the folder and has such a name at its end; it leads out of
the folder only if a part of the way leads up.  If there is nothing to be pulled the run fails
where the listing ended, with the files as they were. -/
theorem newest_lands_by_its_name (d : Device) (remote folder : Value) (link : Link) :
    ((∀ listed word place archive, ¬ Chosen d remote folder link listed word place archive) →
      (∃ e, (d.pullNewest remote folder).run link =
        .error e (endOf ((d.list remote).run link))) ∧
      ((link.replies.head?.getD .silent).written? = none →
        (endOf ((d.list remote).run link)).files = link.files)) ∧
    ∀ listed word place archive, Chosen d remote folder link listed word place archive →
      Pulled d (Path.dropTrailingSlashes word ++ "/" ++ archive) (Path.join place archive) listed
        ((d.pullNewest remote folder).run link) ∧
      ('/' ∉ archive.toList → LandsIn place (Path.join place archive) ∧
        lexically (Path.join place archive) = lexically place ++ [archive]) ∧
      ∃ way name, Leads place archive way name ∧
        (∀ files, AddsFolders files (makeWay files (Path.join place archive)).1 ∧
          makeWay files (Path.join place archive) =
            if (pathOf (way.foldl enter (lexically place))).isEmpty then (files, none)
            else files.makeFolders (pathOf (way.foldl enter (lexically place)))) ∧
        (way = [] ↔ '/' ∉ archive.toList) ∧
        (LandsIn place (Path.join place archive) ↔
          way.foldl enter (lexically place) = lexically place ∧
            Bugreport.isArchiveName name = true) ∧
        (".." ∉ way → lexically place <+: lexically (Path.join place archive)) := by
  constructor
  · exact fun hnone =>
      ⟨exists_run_pullNewest_eq_error hnone, fun hsilent => files_list hsilent d remote⟩
  · intro listed word place archive hchosen
    obtain ⟨names, -, hgreatest⟩ := hchosen.listing
    have harchive : Bugreport.isArchiveName archive = true := hgreatest.1.2
    obtain ⟨way, name, hleads⟩ := exists_leads harchive place
    refine ⟨?_, fun hslash => ?_, way, name, hleads, fun files => ?_, hleads.way_eq_nil_iff,
      hleads.landsIn_iff, hleads.isPrefix⟩
    · rw [hchosen.run_pullNewest]
      exact pulled_run_pull d _ _ listed
    · obtain ⟨-, hplace⟩ := hleads.place_of_slash_not_mem hslash
      exact ⟨⟨archive, harchive, hplace⟩, hplace⟩
    · exact ⟨addsFolders_makeWay files _, hleads.makeWay_eq files⟩

/-- Of two archives that are listed the one of the greater name lands in the folder. -/
theorem greater_lands_in_folder :
    ∃ listed,
      Pulled ⟨.text "", .text "adb", .zero⟩ "/r/bugreport-b.zip" "out/bugreport-b.zip" listed
        ((pullNewest ⟨.text "", .text "adb", .zero⟩ (.text "/r/") (.text "out/")).run
          (.ofReplies .empty [.exited 0 "bugreport-b.zip\nbugreport-a.zip\n" "" none])) ∧
      LandsIn "out/" "out/bugreport-b.zip" ∧
      lexically "out/bugreport-b.zip" = ["out", "bugreport-b.zip"] := by
  have hgreatest : IsGreatest {name | name ∈ ["bugreport-b.zip", "bugreport-a.zip"] ∧
      Bugreport.isArchiveName name = true} "bugreport-b.zip" :=
    getLast?_sortedNames_filter_eq_some_iff.1 (by decide +kernel)
  obtain ⟨listed, hchosen⟩ : ∃ listed, Chosen ⟨.text "", .text "adb", .zero⟩ (.text "/r/")
      (.text "out/") (.ofReplies .empty [.exited 0 "bugreport-b.zip\nbugreport-a.zip\n" "" none])
      listed "/r/" "out/" "bugreport-b.zip" :=
    ⟨_, ⟨_, rfl, hgreatest⟩, rfl, rfl⟩
  obtain ⟨hpulled, hlands, -⟩ := (newest_lands_by_its_name _ _ _ _).2 _ _ _ _ hchosen
  have hjoin : Path.join "out/" "bugreport-b.zip" = "out/bugreport-b.zip" := by decide +kernel
  have hsource : Path.dropTrailingSlashes "/r/" ++ "/" ++ "bugreport-b.zip" =
      "/r/bugreport-b.zip" := by
    decide +kernel
  have hout : lexically "out/" = ["out"] := by decide +kernel
  obtain ⟨hin, hplace⟩ := hlands (by decide +kernel)
  rw [hjoin] at hpulled hin hplace
  rw [hsource] at hpulled
  rw [hout] at hplace
  exact ⟨listed, hpulled, hin, hplace⟩

/-- A way that leads back to the folder ends in it. -/
example : LandsIn "out/" (Path.join "out/" "bugreport/../bugreport-a.zip") :=
  ⟨"bugreport-a.zip", by decide +kernel, by decide +kernel⟩

/-- A device that lists one name with slashes in it has its archive fetched to beside the folder. -/
theorem up_lands_beside :
    (∃ link', (pullNewest ⟨.text "", .text "adb", .zero⟩ (.text "/r") (.text "out")).run
        (.ofReplies .empty [.exited 0 "bugreport/../../x.zip\n" "" none]) =
          .ok "out/bugreport/../../x.zip" link' ∧
      link'.calls = [["adb", "shell", "ls /r"],
        ["adb", "pull", "/r/bugreport/../../x.zip", "out/bugreport/../../x.zip"]]) ∧
    lexically "out/bugreport/../../x.zip" = ["x.zip"] ∧
    ¬ LandsIn "out" "out/bugreport/../../x.zip" := by
  have hplace : lexically "out/bugreport/../../x.zip" = ["x.zip"] := by decide +kernel
  refine ⟨⟨_, rfl, rfl⟩, hplace, ?_⟩
  rintro ⟨name, -, hname⟩
  have hout : lexically "out" = ["out"] := by decide +kernel
  rw [hplace, hout] at hname
  simp at hname

end Device

end SectionTimes
