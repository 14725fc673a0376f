import SectionTimes.Proofs.Collector
import SectionTimes.Proofs.CommandLine.Durations
import SectionTimes.Proofs.Device.Fetching

/-!
# Fetching and reporting

A program that fetches a bugreport reports the newest archive of the folder that it fetched it into,
which is the fetched one unless an archive of a greater name was there.  If nothing is fetched,
nothing is reported.
-/

namespace SectionTimes

open Device

namespace CommandLine

variable {α β : Type} {work : Work α}

/-- Work that takes notes, and does nothing else to the files and the bridge. -/
def IsAside {α : Type} (work : Work α) : Prop :=
  ∀ s, ∃ log, (endOf (work.run s)).link = { s.link with log }

theorem isAside_pure (a : α) : IsAside (pure a : Work α) := fun s => ⟨s.link.log, rfl⟩

theorem isAside_throw (stop : Stop) : IsAside (throw stop : Work α) := fun s => ⟨s.link.log, rfl⟩

theorem isAside_get : IsAside (get : Work Session) := fun s => ⟨s.link.log, rfl⟩

theorem isAside_note (level : Level) (message : String) : IsAside (Work.note level message) :=
  fun _ => ⟨_, rfl⟩

theorem isAside_noting {ε : Type} (stop : ε → Stop) (x : Logged ε α) :
    IsAside (Work.noting stop x) := by
  intro s
  rw [run_noting]
  cases x.run s.link.log <;> exact ⟨_, rfl⟩

theorem IsAside.bind {f : α → Work β} (h : IsAside work) (hf : ∀ a, IsAside (f a)) :
    IsAside (work >>= f) := by
  intro s
  obtain ⟨log, hlog⟩ := h s
  rw [EStateM.run_bind]
  cases hrun : work.run s with
  | error stop s' =>
    rw [hrun] at hlog
    exact ⟨log, hlog⟩
  | ok a s' =>
    rw [hrun] at hlog
    obtain ⟨log', hlog'⟩ := hf a s'
    have hlink : s'.link = { s.link with log } := hlog
    rw [hlink] at hlog'
    exact ⟨log', hlog'⟩

theorem isAside_config (a : Arguments) (environment : Table String String) :
    IsAside (Work.config a environment) := by
  unfold Work.config
  refine isAside_get.bind fun s => (isAside_noting _ _).bind fun file => ?_
  split
  · exact isAside_pure _
  · exact isAside_throw _

namespace Durations

variable {words : List String} {a : Arguments} {environment : Table String String}
  {config : Config} {format : Format} {s s₀ : Session}

/-! ## The settings -/

/-- What is done before anything is fetched: the settings and the format are found. -/
def settle (a : Arguments) (environment : Table String String) : Work (Config × Format) := do
  modify fun s => { s with verbose := a.has "verbose" }
  if conflict a then throw (.failed conflictMessage)
  let config ← Work.config a environment
  let format ← formatOf config.format
  Work.note .debug ("Config: " ++ config.describe)
  return (config, format)

theorem prepare_eq (a : Arguments) (environment : Table String String) :
    prepare a environment = do
      let (config, format) ← settle a environment
      if a.has "pull" then pull config
      return (config, format) := by
  unfold prepare settle
  rw [bind_assoc]
  refine bind_congr fun _ => ?_
  cases conflict a with
  | true => rfl
  | false =>
    rw [if_neg Bool.false_ne_true, if_neg Bool.false_ne_true, bind_assoc]
    refine bind_congr fun config => ?_
    rw [bind_assoc]
    refine bind_congr fun format => ?_
    rw [bind_assoc]
    rfl

theorem isAside_formatOf (setting : Value) : IsAside (formatOf setting) := by
  rcases formatOf_cases setting with ⟨format, h⟩ | ⟨stop, -, h⟩
  · exact h ▸ isAside_pure format
  · exact h ▸ isAside_throw stop

theorem isAside_settle (a : Arguments) (environment : Table String String) :
    IsAside (settle a environment) := by
  unfold settle
  refine IsAside.bind (fun s => ⟨s.link.log, rfl⟩) fun _ => ?_
  split
  · exact (isAside_throw _).bind fun _ => (isAside_config _ _).bind fun config =>
      (isAside_formatOf _).bind fun format => (isAside_note _ _).bind fun _ => isAside_pure _
  · exact (isAside_config _ _).bind fun config => (isAside_formatOf _).bind fun format =>
      (isAside_note _ _).bind fun _ => isAside_pure _

theorem isSilent_settle (a : Arguments) (environment : Table String String) :
    IsSilent (settle a environment) := by
  unfold settle
  refine IsSilent.bind (isSilent_modify ?_) fun _ => ?_
  · exact fun _ => rfl
  apply isSilent_unless
  exact (isSilent_config _ _).bind fun config => (isSilent_formatOf _).bind fun format =>
    (isSilent_note _ _).bind fun _ => isSilent_pure _

/-- What comes before fetching changes neither the files nor the bridge, and prints nothing. -/
theorem exists_log_of_settle (h : (settle a environment).run s = .ok (config, format) s₀) :
    ∃ log, s₀.link = { s.link with log } ∧ s₀.printed = s.printed := by
  obtain ⟨log, hlog⟩ := isAside_settle a environment s
  have hprinted := isSilent_settle a environment s
  rw [h] at hlog hprinted
  exact ⟨log, hlog, hprinted⟩

theorem run_pull (config : Config) (s : Session) :
    (pull config).run s =
      match (config.device.pullNewest config.remoteFolder config.folder).run s.link with
      | .ok _ link => .ok () { s with link }
      | .error e link => .error (stopOfPull e) { s with link } := by
  unfold pull
  rw [EStateM.run_bind, run_attempt]
  cases (config.device.pullNewest config.remoteFolder config.folder).run s.link <;> rfl

theorem run_prepare_of_pull (hpull : a.has "pull" = true)
    (hsettle : (settle a environment).run s = .ok (config, format) s₀) :
    (prepare a environment).run s =
      match (pull config).run s₀ with
      | .ok _ s' => .ok (config, format) s'
      | .error stop s' => .error stop s' := by
  rw [prepare_eq, EStateM.run_bind, hsettle]
  dsimp only
  rw [hpull, if_pos rfl, EStateM.run_bind]
  cases (pull config).run s₀ <;> rfl

/-- Fetching comes between the settings and the report, and there is no report if it fails. -/
theorem outcome_of_pull (hread : rules.read words = .ok (.work a)) (hwatch : a.has "watch" = false)
    (hpull : a.has "pull" = true) (hsettle : (settle a environment).run s = .ok (config, format) s₀)
    (changes : List (List Change)) :
    (run words environment changes).outcome s =
      match (config.device.pullNewest config.remoteFolder config.folder).run s₀.link with
      | .ok _ link => (report a config format).outcome { s₀ with link }
      | .error e link => ⟨{ s₀ with link }, some (stopOfPull e)⟩ := by
  rw [outcome_eq, run_run hread hwatch, run_prepare_of_pull hpull hsettle, run_pull]
  cases (config.device.pullNewest config.remoteFolder config.folder).run s₀.link <;> rfl

/-- A failure to fetch is reported. -/
theorem stopOfPull_of_isOfBridge {e : Device.Failure} (h : e.IsOfBridge) :
    ∃ message, stopOfPull e = .failed message := by
  rcases h with ⟨words, code, errors, rfl⟩ | ⟨folder, rfl⟩
  · exact ⟨_, rfl⟩
  · exact ⟨_, rfl⟩

/-- If fetching fails, this is reported and nothing is printed. -/
theorem fails_of_pull_error (hread : rules.read words = .ok (.work a))
    (hwatch : a.has "watch" = false) (hpull : a.has "pull" = true)
    (hsettle : (settle a environment).run s = .ok (config, format) s₀)
    {e : Device.Failure} {link : Device.Link} (he : e.IsOfBridge)
    (hrun : (config.device.pullNewest config.remoteFolder config.folder).run s₀.link =
      .error e link) (changes : List (List Change)) :
    ((run words environment changes).outcome s).exitCode? = some 1 ∧
      ((run words environment changes).outcome s).outputLines = s.printed ∧
      ((run words environment changes).outcome s).session.link.calls = link.calls := by
  obtain ⟨log, -, hprinted⟩ := exists_log_of_settle hsettle
  obtain ⟨message, hmessage⟩ := stopOfPull_of_isOfBridge he
  rw [outcome_of_pull hread hwatch hpull hsettle, hrun]
  dsimp only
  rw [hmessage]
  exact ⟨rfl, hprinted, rfl⟩

/-! ## The report -/

/-- A program ends as the report of an archive has it end. -/
def EndsWithReport (a : Arguments) (config : Config) (format : Format) (folder : String)
    (files : Files) (archive : String) (printed : List String) (o : Outcome) : Prop :=
  match (Collector.metricsOf ⟨folder⟩ files archive).outcome with
  | .ok metrics =>
    o.exitCode? = some 0 ∧ o.outputLines = printed ++ shownLines a config format metrics
  | .error e => o.stop = some (Stop.ofReading e) ∧ o.outputLines = printed

/-- Without an archive that is named, the report is that of the newest. -/
theorem endsWithReport_of_newest {folder archive : String}
    (hfolder : config.folder.text? = some folder) (harchive : a.text? "archive" = none)
    (hnewest : (Bugreport.newest s.link.files folder).outcome = .ok archive) :
    EndsWithReport a config format folder s.link.files archive s.printed
      ((report a config format).outcome s) := by
  obtain ⟨log, hreport⟩ := run_report (a := a) hfolder format s
  rw [harchive, Collector.outcome_metrics_none, hnewest] at hreport
  dsimp only at hreport
  unfold EndsWithReport
  rw [outcome_eq, hreport]
  cases (Collector.metricsOf ⟨folder⟩ s.link.files archive).outcome with
  | error e => exact ⟨rfl, rfl⟩
  | ok metrics => exact ⟨rfl, rfl⟩

/-- A report asks the bridge nothing. -/
theorem calls_report {folder : String} (hfolder : config.folder.text? = some folder) :
    ((report a config format).outcome s).session.link.calls = s.link.calls := by
  obtain ⟨log, hreport⟩ := run_report (a := a) hfolder format s
  rw [outcome_eq, hreport]
  cases (Collector.metrics ⟨folder⟩ s.link.files (a.text? "archive")).outcome <;> rfl

/-- A program ends as the reply to the fetching of an archive has it end.  If that went well, the
archive that is reported has the greatest name among it and those that were in the folder. -/
structure EndsAsFetched (a : Arguments) (config : Config) (format : Format)
    (folder newest : String) (files files' : Files) (reply : Device.Reply) (printed : List String)
    (o : Outcome) : Prop where
  failed : reply.output? = none → o.exitCode? = some 1 ∧ o.outputLines = printed
  reported : ∀ content, reply.output?.isSome = true → reply.written? = some content →
    ∃ archive,
      IsGreatest (insert newest {name | Bugreport.IsArchive files folder name}) archive ∧
      (archive = newest ↔ ∀ name, Bugreport.IsArchive files folder name → name ≤ newest) ∧
      files'.content? (Path.join folder archive) =
        (if archive = newest then some content else files.contentIn? folder archive) ∧
      EndsWithReport a config format folder files' archive printed o

/-- With a new archive in a folder, the report is that of the greatest of it and those that were
there. -/
theorem endsAsFetched_of_write {folder newest : String} {files between : Files}
    {reply : Device.Reply} (hfolder : config.folder.text? = some folder) (hne : folder ≠ "")
    (harchive : a.text? "archive" = none) (hnamed : files.IsNamed)
    (hname : Bugreport.isArchiveName newest = true) (hslash : '/' ∉ newest.toList)
    (hadds : Files.AddsFolders files between) (houtput : reply.output? ≠ none)
    (hwrite : ∀ content, reply.written? = some content →
      between.write (Path.join folder newest) content = (s.link.files, none)) :
    EndsAsFetched a config format folder newest files s.link.files reply s.printed
      ((report a config format).outcome s) where
  failed hnone := absurd hnone houtput
  reported := by
    intro content _ hwritten
    obtain ⟨archive, hfound, hgreatest, hcontent⟩ :=
      Bugreport.exists_newest_of_write hnamed hne hname hslash hadds (hwrite content hwritten)
    refine ⟨archive, hgreatest, ⟨?_, fun hle => ?_⟩, hcontent,
      endsWithReport_of_newest hfolder harchive hfound⟩
    · rintro rfl name hname
      exact hgreatest.2 (Or.inr hname)
    · rcases hgreatest.1 with heq | hmem
      · exact heq
      · exact le_antisymm (hle archive hmem) (hgreatest.2 (Or.inl rfl))

/-- Once the archive of the greatest name was asked for, nothing more is asked, and the program ends
as the reply has it end. -/
theorem ends_of_fetching {folder remote newest output : String} {opening : List String}
    {reply reply' : Device.Reply} {link₁ link₃ : Device.Link}
    (hread : rules.read words = .ok (.work a)) (hwatch : a.has "watch" = false)
    (hpull : a.has "pull" = true) (harchive : a.text? "archive" = none)
    (hsettle : (settle a environment).run s = .ok (config, format) s₀)
    (hfolder : config.folder = .text folder) (hremote : config.remoteFolder.text? = some remote)
    (hopening : config.device.opening? = some opening)
    (hask : (ask (listingWords opening remote)).run
      (noting s₀.link (listingWords opening remote)) = .ok reply link₁)
    (houtput : reply.output? = some output) (hnewest : IsGreatest (listedArchives output) newest)
    (hslash : '/' ∉ newest.toList) (hnamed : link₁.files.IsNamed)
    (hcan : CanHaveFolder link₁.files folder)
    (hask' : (ask (fetchingWords opening remote folder newest)).run
      (noting { link₁ with files := (makeWay link₁.files (Path.join folder newest)).1 }
        (fetchingWords opening remote folder newest)) = .ok reply' link₃)
    (changes : List (List Change)) :
    ((run words environment changes).outcome s).session.link.calls = link₃.calls ∧
      EndsAsFetched a config format folder newest link₁.files link₃.files reply' s.printed
        ((run words environment changes).outcome s) := by
  obtain ⟨log, -, hprinted⟩ := exists_log_of_settle hsettle
  have hplain := Bugreport.isPlain_of_isArchiveName hnewest.1.2 hslash
  obtain ⟨hway, hadds⟩ := makeWay_join hplain hcan
  obtain ⟨hbad, hgood⟩ := run_pullNewest_cases hremote hopening hask houtput hnewest hway hask'
  rw [← hfolder] at hbad hgood
  cases houtput' : reply'.output? with
  | none =>
    obtain ⟨e, hrun, he⟩ := hbad houtput'
    obtain ⟨hexit, hlines, hasked⟩ :=
      fails_of_pull_error hread hwatch hpull hsettle he hrun changes
    refine ⟨hasked, fun _ => ⟨hexit, hlines⟩, fun _ hgood => ?_⟩
    rw [houtput'] at hgood
    cases hgood
  | some output' =>
    obtain ⟨path, log', hrun⟩ := hgood (by rw [houtput']; rfl)
    have htext : config.folder.text? = some folder := by rw [hfolder]; rfl
    have hwrite content (hwritten : reply'.written? = some content) :=
      write_of_fetching hask' hwritten
    rw [outcome_of_pull hread hwatch hpull hsettle changes, hrun, ← hprinted]
    refine ⟨calls_report htext, ?_⟩
    exact endsAsFetched_of_write (s := { s₀ with link := { link₃ with log := log' } }) htext hcan.1
      harchive hnamed hnewest.1.2 hslash hadds (by rw [houtput']; exact nofun) hwrite

end Durations

end CommandLine

open CommandLine CommandLine.Durations Bugreport

/-! ## A folder with one archive -/

theorem mem_of_find?_shortFiles {l : Location} {name : String}
    (h : (shortFiles.nodes.find? (l ++ [name])).isSome = true) :
    name ∈ ["r", "bugreport-a.zip"] := by
  obtain ⟨e, he, hkey⟩ := Table.mem_keys_ofList_iff.1 (Table.mem_keys_iff.2 h)
  have hlast : e.1.getLast? = some name := by rw [hkey, List.getLast?_concat]
  rcases List.mem_pair.1 he with rfl | rfl
  · cases hlast
    exact List.mem_cons_self
  · cases hlast
    exact List.mem_cons_of_mem _ List.mem_cons_self

theorem isNamed_shortFiles : shortFiles.IsNamed := by
  intro l name hfound
  rcases List.mem_pair.1 (mem_of_find?_shortFiles hfound) with rfl | rfl <;> decide

theorem eq_of_isArchive_shortFiles {name : String} (h : IsArchive shortFiles "r" name) :
    name = "bugreport-a.zip" := by
  rcases List.mem_pair.1 (mem_of_find?_shortFiles (Files.isSome_find?_of_contentIn? h.file)) with
    rfl | rfl
  · exact absurd h.named (by decide)
  · rfl

theorem makeFolders_shortFiles : shortFiles.makeFolders "r" = (shortFiles, none) := by
  have hpath : (if "r".all (· == '/') then "r" else Path.dropTrailingSlashes "r") = "r" := by
    rw [String.all_bool_eq]
    decide +kernel
  have hlocate : shortFiles.locate "r" = .ok ["r"] := by decide +kernel
  have hnode : shortFiles.nodeAt ["r"] = some .folder := by decide +kernel
  have hmake : shortFiles.makeFolder "r" = (shortFiles, none) := by
    unfold Files.makeFolder
    rw [hpath, hlocate]
    dsimp only
    rw [hnode]
  unfold Files.makeFolders Files.makeFoldersWithin
  dsimp only
  rw [if_pos (by decide +kernel), hmake]

theorem write_shortFiles (content : List UInt8) :
    shortFiles.write "r/bugreport-b.zip" content =
      (⟨shortFiles.nodes.put ["r", "bugreport-b.zip"] (.file content)⟩, none) := by
  have hfolder : Path.folderPart "r/bugreport-b.zip" = "r" := by decide +kernel
  have hlocate : shortFiles.locate "r/bugreport-b.zip" = .ok ["r", "bugreport-b.zip"] := by
    decide +kernel
  have hnode : shortFiles.nodeAt ["r", "bugreport-b.zip"] ≠ some .folder := by decide +kernel
  unfold Files.write
  rw [hfolder]
  dsimp only
  rw [if_neg (by decide : ¬"r".isEmpty = true), makeFolders_shortFiles, Files.writeFile, hlocate]
  dsimp only
  rw [if_neg hnode]
  rfl

/-! ## Fetching before the report -/

/-- The bridge is asked for a listing, and then, if an archive is listed, for the one of the
greatest name.  Once that is in the folder, the archive of the greatest name there is reported,
which is the fetched one just if none that was there has a greater name.  If the listing or the
fetching fails, or no archive is listed, the exit code is 1 and nothing is printed. -/
theorem newest_reported_after_fetching {words : List String} {a : Arguments}
    {environment : Table String String} {config : Config} {format : Format} {s s₀ : Session}
    {folder remote : String} {opening : List String}
    (hread : rules.read words = .ok (.work a)) (hpull : a.has "pull" = true)
    (hwatch : a.has "watch" = false) (harchive : a.text? "archive" = none)
    (hsettle : (settle a environment).run s = .ok (config, format) s₀)
    (hfolder : config.folder = .text folder) (hremote : config.remoteFolder.text? = some remote)
    (hopening : config.device.opening? = some opening) (hnamed : s.link.files.IsNamed)
    (changes : List (List Change)) :
    let o := (run words environment changes).outcome s
    let listing := listingWords opening remote
    let sent := s.link.replies.head?.getD .silent
    (sent.written? = none → ∃ link₁,
      (ask listing).run (noting s₀.link listing) = .ok sent link₁ ∧
        link₁.files = s.link.files ∧ link₁.replies = s.link.replies.tail) ∧
    ∀ reply link₁, (ask listing).run (noting s₀.link listing) = .ok reply link₁ →
      ((∀ output, reply.output? = some output → listedArchives output = ∅) →
        o.exitCode? = some 1 ∧ o.outputLines = s.printed ∧
          o.session.link.calls = s.link.calls ++ [listing]) ∧
      ∀ output, reply.output? = some output → listedArchives output ≠ ∅ →
        ∃ newest, IsGreatest (listedArchives output) newest ∧
          ('/' ∉ newest.toList → CanHaveFolder link₁.files folder →
            let fetching := fetchingWords opening remote folder newest
            let files := (makeWay link₁.files (Path.join folder newest)).1
            let sent' := link₁.replies.head?.getD .silent
            let link₂ := noting { link₁ with files } fetching
            (sent'.Fits files (Path.join folder newest) →
              ∃ link₃, (ask fetching).run link₂ = .ok sent' link₃) ∧
            ∀ reply' link₃, (ask fetching).run link₂ = .ok reply' link₃ →
              o.session.link.calls = s.link.calls ++ [listing, fetching] ∧
              EndsAsFetched a config format folder newest link₁.files link₃.files reply' s.printed
                o) := by
  intro o listing sent
  obtain ⟨log, hlog, -⟩ := exists_log_of_settle hsettle
  constructor
  · intro hsent
    let link : Link := noting { s.link with log } listing
    have hfits : (link.replies.head?.getD .silent).Fits link.files (listing.getLast?.getD "") :=
      fun content hwritten => nomatch hsent.symm.trans hwritten
    obtain ⟨link₁, hask, hreplies⟩ := exists_ask hfits
    have hfiles := files_of_ask hask hsent
    rw [hlog]
    exact ⟨link₁, hask, hfiles, hreplies⟩
  intro reply link₁ hask
  have hcalls : link₁.calls = s.link.calls ++ [listing] := by
    rw [calls_of_ask hask, hlog]
  refine ⟨fun hnone => ?_, fun output houtput hlisted => ?_⟩
  · obtain ⟨e, hrun, he⟩ := exists_run_pullNewest_of_none hremote hopening hask hnone
    rw [← hfolder] at hrun
    rw [← hcalls]
    exact fails_of_pull_error hread hwatch hpull hsettle he hrun changes
  · obtain ⟨newest, hnewest⟩ := exists_isGreatest_listedArchives hlisted
    refine ⟨newest, hnewest, fun hslash hcan => ?_⟩
    intro fetching files sent' link₂
    refine ⟨exists_ask_fetchingWords, fun reply' link₃ hask' => ?_⟩
    have hcalls' : link₃.calls = s.link.calls ++ [listing, fetching] := by
      rw [calls_of_ask hask']
      change link₁.calls ++ [fetching] = _
      rw [hcalls, List.append_assoc]
      rfl
    have hnamed₁ : link₁.files.IsNamed := by
      rw [hlog] at hask
      refine isNamed_of_ask ?_ hask
      exact hnamed
    rw [← hcalls']
    exact ends_of_fetching hread hwatch hpull harchive hsettle hfolder hremote hopening hask houtput
      hnewest hslash hnamed₁ hcan hask' changes

/-- The archive that was fetched is reported, as that which was there has a smaller name. -/
theorem fetched_reported :
    let listing := "bugreport-b.zip\nnotes.txt\n\n bugreport-0.zip \n"
    let s : Session :=
      .start shortFiles [.exited 0 listing "" none, .exited 0 "" "" (some shortArchive)] .zero
    let o := (run ["--pull", "--dir", "r"] .empty []).outcome s
    IsGreatest (listedArchives listing) "bugreport-b.zip" ∧
      o.session.link.calls = [["adb", "shell", "ls " ++ deviceFolder],
        ["adb", "pull", deviceFolder ++ "bugreport-b.zip", "r/bugreport-b.zip"]] ∧
      ∃ a config format files, files.content? "r/bugreport-b.zip" = some shortArchive ∧
        EndsWithReport a config format "r" files "bugreport-b.zip" [] o := by
  intro listing s o
  let a : Arguments := ⟨.ofList [("pull", .bool true), ("dir", .text "r")], []⟩
  have hread : rules.read ["--pull", "--dir", "r"] = .ok (.work a) := rfl
  obtain ⟨config, format, s₀, hsettle, hfolder, hremote, hopening⟩ :
      ∃ config format s₀, (settle a .empty).run s = .ok (config, format) s₀ ∧
        config.folder = .text "r" ∧ config.remoteFolder.text? = some deviceFolder ∧
        config.device.opening? = some ["adb"] :=
    ⟨_, _, _, rfl, rfl, rfl, rfl⟩
  obtain ⟨hanswers, hfetches⟩ := newest_reported_after_fetching hread rfl rfl rfl hsettle hfolder
    hremote hopening isNamed_shortFiles []
  obtain ⟨link₁, hask, hfiles, hreplies⟩ := hanswers rfl
  have hfiles : link₁.files = shortFiles := hfiles
  obtain ⟨-, hsome⟩ := hfetches _ _ hask
  have hlisted : IsGreatest (listedArchives listing) "bugreport-b.zip" :=
    getLast?_listed_eq_some_iff.1 (by decide +kernel)
  obtain ⟨newest, hnewest, hfetch⟩ :=
    hsome listing rfl (Set.nonempty_iff_ne_empty.1 ⟨_, hlisted.1⟩)
  obtain rfl := hnewest.unique hlisted
  have hjoin : Path.join "r" "bugreport-b.zip" = "r/bugreport-b.zip" := by decide +kernel
  have hway : makeWay shortFiles "r/bugreport-b.zip" = (shortFiles, none) := makeFolders_shortFiles
  have ho : (run ["--pull", "--dir", "r"] .empty []).outcome s = o := rfl
  rw [hfiles, hreplies, hjoin, hway, ho] at hfetch
  have hcan : CanHaveFolder shortFiles "r" :=
    ⟨by decide, Or.inr (congrArg Prod.snd makeFolders_shortFiles)⟩
  obtain ⟨hanswers', hends⟩ := hfetch (by decide) hcan
  obtain ⟨link₃, hask'⟩ := hanswers' fun content _ =>
    congrArg Prod.snd (write_shortFiles content)
  obtain ⟨hcalls, hfetched⟩ := hends _ link₃ hask'
  obtain ⟨archive, -, hiff, hcontent, hreport⟩ := hfetched.reported shortArchive rfl rfl
  have hle : ∀ name, IsArchive shortFiles "r" name → name ≤ "bugreport-b.zip" := by
    intro name hname
    rw [eq_of_isArchive_shortFiles hname]
    decide
  obtain rfl := hiff.2 hle
  rw [hjoin, if_pos rfl] at hcontent
  have hwords : s.link.calls ++ [listingWords ["adb"] deviceFolder,
      fetchingWords ["adb"] deviceFolder "r" "bugreport-b.zip"] =
        [["adb", "shell", "ls " ++ deviceFolder],
          ["adb", "pull", deviceFolder ++ "bugreport-b.zip", "r/bugreport-b.zip"]] := by
    decide +kernel
  exact ⟨hlisted, hcalls.trans hwords, a, config, format, link₃.files, hcontent, hreport⟩

end SectionTimes
