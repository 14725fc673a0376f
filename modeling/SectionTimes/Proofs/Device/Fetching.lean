import SectionTimes.Proofs.Bugreport.Newest
import SectionTimes.Proofs.Device.Opening

/-!
# Fetching the newest bugreport

The bridge is asked for a listing, and then for the archive of the greatest name in it, if there is
one.  What was fetched is then one of the archives of the folder that it was fetched into.
-/

namespace SectionTimes

open Text

namespace Device

/-- The output of a run of the bridge that went well. -/
def Reply.output? : Reply → Option String
  | .exited code output _ _ => if code = 0 then some output else none
  | _ => none

/-- What the bridge wrote into a file. -/
def Reply.written? : Reply → Option (List UInt8)
  | .exited _ _ _ written => written
  | _ => none

variable {d : Device} {link link₁ : Link} {words opening : List String} {reply : Reply}

/-! ## Asking -/

theorem calls_of_ask (h : (ask words).run (noting link words) = .ok reply link₁) :
    link₁.calls = link.calls ++ [words] := by
  have hcalls := calls_ask (noting link words) words
  rw [h] at hcalls
  exact hcalls

/-- The bridge writes no file, or the one that the last of the words names, or cannot be started for
an obstacle there. -/
theorem ask_cases (h : (ask words).run link = .ok reply link₁) :
    (link.replies.head?.getD .silent).written? = none ∧ link₁.files = link.files ∧
        reply.written? = none ∨
      ∃ content, (link.replies.head?.getD .silent).written? = some content ∧
        (link.files.write (words.getLast?.getD "") content = (link₁.files, none) ∧
            reply.written? = some content ∨
          ∃ place, link.files.write (words.getLast?.getD "") content = (link₁.files, some place) ∧
            reply.written? = none) := by
  unfold ask EStateM.run at h
  dsimp only at h
  cases hsent : link.replies.head?.getD .silent with
  | exited code output errors written =>
    rw [hsent] at h
    cases written with
    | none =>
      cases h
      exact Or.inl ⟨rfl, rfl, rfl⟩
    | some content =>
      refine Or.inr ⟨content, rfl, ?_⟩
      dsimp only at h
      generalize link.files.write (words.getLast?.getD "") content = way at h ⊢
      obtain ⟨files, _ | ⟨path, obstacle⟩⟩ := way
      · cases h
        exact Or.inl ⟨rfl, rfl⟩
      · refine Or.inr ⟨(path, obstacle), ?_⟩
        cases obstacle <;> cases h <;> exact ⟨rfl, rfl⟩
  | timedOut =>
    rw [hsent] at h
    cases h
    exact Or.inl ⟨rfl, rfl, rfl⟩
  | notStarted cause =>
    rw [hsent] at h
    cases h
    exact Or.inl ⟨rfl, rfl, rfl⟩

/-- What a reply writes can be written at a path. -/
def Reply.Fits (reply : Reply) (files : Files) (path : String) : Prop :=
  ∀ content, reply.written? = some content → (files.write path content).2 = none

/-- The bridge gives a reply that fits. -/
theorem exists_ask (hfits : (link.replies.head?.getD .silent).Fits link.files
      (words.getLast?.getD "")) :
    ∃ link₁, (ask words).run link = .ok (link.replies.head?.getD .silent) link₁ ∧
      link₁.replies = link.replies.tail := by
  unfold ask EStateM.run
  dsimp only
  cases hsent : link.replies.head?.getD .silent with
  | exited code output errors written =>
    cases written with
    | none => exact ⟨_, rfl, rfl⟩
    | some content =>
      rw [hsent] at hfits
      have hwrite := hfits content rfl
      dsimp only
      generalize link.files.write (words.getLast?.getD "") content = way at hwrite ⊢
      obtain ⟨files, obstacle⟩ := way
      cases hwrite
      exact ⟨_, rfl, rfl⟩
  | timedOut => exact ⟨_, rfl, rfl⟩
  | notStarted cause => exact ⟨_, rfl, rfl⟩

/-- What the bridge wrote is in the file that the last of the words names. -/
theorem write_of_ask {content : List UInt8} (h : (ask words).run link = .ok reply link₁)
    (hwritten : reply.written? = some content) :
    link.files.write (words.getLast?.getD "") content = (link₁.files, none) := by
  rcases ask_cases h with ⟨-, -, hnone⟩ | ⟨content', -, ⟨hwrite, hsome⟩ | ⟨_, -, hnone⟩⟩
  · cases hnone.symm.trans hwritten
  · rwa [Option.some.inj (hsome.symm.trans hwritten)] at hwrite
  · cases hnone.symm.trans hwritten

theorem files_ask (hsilent : (link.replies.head?.getD .silent).written? = none)
    (words : List String) : (endOf ((ask words).run link)).files = link.files := by
  unfold ask EStateM.run
  dsimp only
  cases hsent : link.replies.head?.getD .silent with
  | exited code output errors written =>
    rw [hsent] at hsilent
    obtain rfl : written = none := hsilent
    rfl
  | timedOut => rfl
  | notStarted cause => rfl

theorem files_of_ask (h : (ask words).run link = .ok reply link₁)
    (hsent : (link.replies.head?.getD .silent).written? = none) : link₁.files = link.files := by
  have hfiles := files_ask hsent words
  rw [h] at hfiles
  exact hfiles

theorem isNamed_of_ask (hnamed : link.files.IsNamed) (h : (ask words).run link = .ok reply link₁) :
    link₁.files.IsNamed := by
  have hwrite content := Files.isNamed_write hnamed (words.getLast?.getD "") content
  rcases ask_cases h with ⟨-, hfiles, -⟩ | ⟨content, -, ⟨hwritten, -⟩ | ⟨_, hwritten, -⟩⟩
  · rwa [hfiles]
  · have hnamed := hwrite content
    rwa [hwritten] at hnamed
  · have hnamed := hwrite content
    rwa [hwritten] at hnamed

/-! ## Running -/

theorem run_of_output {arguments : List String} {output : String}
    (hopening : d.opening? = some opening)
    (hask : (ask (opening ++ arguments)).run (noting link (opening ++ arguments)) = .ok reply link₁)
    (houtput : reply.output? = some output) :
    (d.run arguments).run link = .ok output link₁ := by
  rw [run_of_opening?_eq_some hopening, hask]
  cases reply with
  | exited code output' errors written =>
    unfold Reply.output? at houtput
    dsimp only at houtput ⊢
    split at houtput
    · cases houtput
      exact if_pos ‹_›
    · cases houtput
  | timedOut => cases houtput
  | notStarted cause => cases houtput

theorem exists_run_of_no_output {arguments : List String} (hopening : d.opening? = some opening)
    (hask : (ask (opening ++ arguments)).run (noting link (opening ++ arguments)) = .ok reply link₁)
    (houtput : reply.output? = none) :
    ∃ code errors, (d.run arguments).run link =
      .error (.command (opening ++ arguments) code errors) link₁ := by
  rw [run_of_opening?_eq_some hopening, hask]
  cases reply with
  | exited code output' errors written =>
    unfold Reply.output? at houtput
    dsimp only at houtput ⊢
    split at houtput
    · cases houtput
    · exact ⟨_, _, if_neg ‹_›⟩
  | timedOut => exact ⟨_, _, rfl⟩
  | notStarted cause => exact ⟨_, _, rfl⟩

theorem run_pullNewest {remote : Value} {word : String} (hremote : remote.text? = some word)
    (d : Device) (folder : String) (link : Link) :
    (d.pullNewest remote (.text folder)).run link =
      match (d.run ["shell", "ls " ++ shellQuote word]).run link with
      | .error e link₁ => .error e link₁
      | .ok output link₁ =>
        match (sortedNames ((namesIn output).filter Bugreport.isArchiveName)).getLast? with
        | none => .error (.noArchives remote) link₁
        | some newest =>
          (d.pull (Path.dropTrailingSlashes word ++ "/" ++ newest) (Path.join folder newest)).run
            link₁ := by
  unfold pullNewest
  rw [EStateM.run_bind, run_list (Or.inl hremote)]
  cases (d.run ["shell", "ls " ++ shellQuote word]).run link with
  | error e link₁ => rfl
  | ok output link₁ =>
    dsimp only
    cases (sortedNames ((namesIn output).filter Bugreport.isArchiveName)).getLast? with
    | none => rfl
    | some newest =>
      dsimp only
      rw [hremote]
      rfl

/-! ## Making way -/

/-- A folder is there, or can be made.  An empty text names none, whereas the working folder, whose
place has an empty path, is always there. -/
def CanHaveFolder (files : Files) (folder : String) : Prop :=
  folder ≠ "" ∧ ((Files.pathOf (Files.lexically folder)).isEmpty = true ∨
    (files.makeFolders (Files.pathOf (Files.lexically folder))).2 = none)

theorem addsFolders_makeWay (files : Files) (path : String) :
    Files.AddsFolders files (makeWay files path).1 := by
  unfold makeWay
  split
  · exact .refl files
  · exact Files.addsFolders_makeFolders files _

/-- The folder that is made for a file is the one that it is taken from. -/
theorem makeWay_join_eq {name : String} (hplain : Files.IsPlain name) (files : Files)
    (folder : String) :
    makeWay files (Path.join folder name) =
      if (Files.pathOf (Files.lexically folder)).isEmpty then (files, none)
      else files.makeFolders (Files.pathOf (Files.lexically folder)) := by
  unfold makeWay
  rw [Files.lexically_join hplain, Files.above_concat hplain]

theorem makeWay_join {files : Files} {folder name : String} (hplain : Files.IsPlain name)
    (hcan : CanHaveFolder files folder) :
    (makeWay files (Path.join folder name)).2 = none ∧
      Files.AddsFolders files (makeWay files (Path.join folder name)).1 := by
  obtain ⟨-, hcan⟩ := hcan
  refine ⟨?_, addsFolders_makeWay files _⟩
  rw [makeWay_join_eq hplain]
  split
  · rfl
  · exact hcan.resolve_left ‹_›

/-! ## Fetching -/

/-- The words for a listing. -/
def listingWords (opening : List String) (remote : String) : List String :=
  opening ++ ["shell", "ls " ++ shellQuote remote]

/-- The words for fetching an archive that was listed. -/
def fetchingWords (opening : List String) (remote folder archive : String) : List String :=
  opening ++ ["pull", Path.dropTrailingSlashes remote ++ "/" ++ archive, Path.join folder archive]

theorem getLast?_fetchingWords (opening : List String) (remote folder archive : String) :
    (fetchingWords opening remote folder archive).getLast?.getD "" = Path.join folder archive := by
  simp [fetchingWords]

/-- What the bridge wrote when it fetched an archive is in the folder. -/
theorem write_of_fetching {between : Files} {remote folder archive : String}
    {content : List UInt8}
    (h : (ask (fetchingWords opening remote folder archive)).run
      (noting { link with files := between } (fetchingWords opening remote folder archive)) =
        .ok reply link₁) (hwritten : reply.written? = some content) :
    between.write (Path.join folder archive) content = (link₁.files, none) := by
  have hwrite := write_of_ask h hwritten
  rw [getLast?_fetchingWords] at hwrite
  exact hwrite

/-- The bridge gives a reply to the fetching that fits. -/
theorem exists_ask_fetchingWords {between : Files} {remote folder archive : String}
    (hfits : (link.replies.head?.getD .silent).Fits between (Path.join folder archive)) :
    ∃ link₁, (ask (fetchingWords opening remote folder archive)).run
      (noting { link with files := between } (fetchingWords opening remote folder archive)) =
        .ok (link.replies.head?.getD .silent) link₁ := by
  have hfits : ((noting { link with files := between }
      (fetchingWords opening remote folder archive)).replies.head?.getD .silent).Fits between
        ((fetchingWords opening remote folder archive).getLast?.getD "") := by
    rw [getLast?_fetchingWords]
    exact hfits
  obtain ⟨link₁, hask, -⟩ := exists_ask hfits
  exact ⟨link₁, hask⟩

/-- The archives that an output lists. -/
def listedArchives (output : String) : Set String :=
  {name | name ∈ namesIn output ∧ Bugreport.isArchiveName name = true}

theorem getLast?_listed_eq_some_iff {output newest : String} :
    (sortedNames ((namesIn output).filter Bugreport.isArchiveName)).getLast? = some newest ↔
      IsGreatest (listedArchives output) newest :=
  getLast?_sortedNames_filter_eq_some_iff

theorem getLast?_listed_eq_none_iff {output : String} :
    (sortedNames ((namesIn output).filter Bugreport.isArchiveName)).getLast? = none ↔
      listedArchives output = ∅ := by
  rw [getLast?_sortedNames_eq_none_iff, Set.eq_empty_iff_forall_notMem]
  exact forall_congr' fun name => not_congr List.mem_filter

/-- An output that lists archives lists one of the greatest name. -/
theorem exists_isGreatest_listedArchives {output : String} (h : listedArchives output ≠ ∅) :
    ∃ newest, IsGreatest (listedArchives output) newest := by
  cases hlast : (sortedNames ((namesIn output).filter Bugreport.isArchiveName)).getLast? with
  | none => exact absurd (getLast?_listed_eq_none_iff.1 hlast) h
  | some newest => exact ⟨newest, getLast?_listed_eq_some_iff.1 hlast⟩

/-- A failure of the bridge, or that there is nothing to fetch. -/
def Failure.IsOfBridge (e : Failure) : Prop :=
  (∃ words code errors, e = .command words code errors) ∨ ∃ folder, e = .noArchives folder

variable {remote : Value} {word folder output : String}

/-- If the listing fails or has no archives, nothing is fetched. -/
theorem exists_run_pullNewest_of_none (hremote : remote.text? = some word)
    (hopening : d.opening? = some opening)
    (hask : (ask (listingWords opening word)).run (noting link (listingWords opening word)) =
      .ok reply link₁)
    (hnone : ∀ output, reply.output? = some output → listedArchives output = ∅) :
    ∃ e, (d.pullNewest remote (.text folder)).run link = .error e link₁ ∧ e.IsOfBridge := by
  rw [run_pullNewest hremote]
  cases houtput : reply.output? with
  | none =>
    obtain ⟨code, errors, hrun⟩ := exists_run_of_no_output hopening hask houtput
    rw [hrun]
    exact ⟨_, rfl, Or.inl ⟨_, _, _, rfl⟩⟩
  | some output =>
    rw [run_of_output hopening hask houtput]
    dsimp only
    rw [getLast?_listed_eq_none_iff.2 (hnone output houtput)]
    exact ⟨_, rfl, Or.inr ⟨_, rfl⟩⟩

/-- The archive of the greatest name in the listing is fetched, and is there once the bridge has
answered well. -/
theorem run_pullNewest_cases (hremote : remote.text? = some word)
    (hopening : d.opening? = some opening)
    (hask : (ask (listingWords opening word)).run (noting link (listingWords opening word)) =
      .ok reply link₁)
    (houtput : reply.output? = some output) {newest : String}
    (hnewest : IsGreatest (listedArchives output) newest)
    (hway : (makeWay link₁.files (Path.join folder newest)).2 = none)
    {reply' : Reply} {link₃ : Link}
    (hask' : (ask (fetchingWords opening word folder newest)).run
      (noting { link₁ with files := (makeWay link₁.files (Path.join folder newest)).1 }
        (fetchingWords opening word folder newest)) = .ok reply' link₃) :
    (reply'.output? = none →
      ∃ e, (d.pullNewest remote (.text folder)).run link = .error e link₃ ∧ e.IsOfBridge) ∧
    (reply'.output?.isSome = true → ∃ path log,
      (d.pullNewest remote (.text folder)).run link = .ok path { link₃ with log }) := by
  rw [run_pullNewest hremote, run_of_output hopening hask houtput]
  dsimp only
  rw [getLast?_listed_eq_some_iff.2 hnewest]
  dsimp only
  rw [run_pull]
  generalize makeWay link₁.files (Path.join folder newest) = way at hway hask' ⊢
  obtain ⟨between, obstacle⟩ := way
  cases hway
  dsimp only
  constructor
  · intro houtput'
    obtain ⟨code, errors, hrun⟩ := exists_run_of_no_output hopening hask' houtput'
    rw [hrun]
    exact ⟨_, rfl, Or.inl ⟨_, _, _, rfl⟩⟩
  · intro houtput'
    obtain ⟨output', houtput'⟩ := Option.isSome_iff_exists.1 houtput'
    rw [run_of_output hopening hask' houtput']
    exact ⟨_, _, rfl⟩

end Device

end SectionTimes
