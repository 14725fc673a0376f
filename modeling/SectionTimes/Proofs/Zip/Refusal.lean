import SectionTimes.Proofs.Log
import SectionTimes.Zip.Member

/-!
# What archives are refused for

Damage is one thing, and another what an archive is given up for.  Here is said what the grounds
for that are: something in its directory, or something in a member that is read.  Of packed data
only that of bzip2 and LZMA is ever refused; whatever is wrong with deflated data is a damage.
-/

namespace SectionTimes.Zip

open Unpacking (Outcome Stop)

/-- What in an entry of a directory is a ground to refuse the archive. -/
inductive RecordGrounds (record : List UInt8) : Refusal → Prop where
  /-- Its name is marked as UTF-8 and is none. -/
  | nameEncoding (hflag : (fieldAt record 8 2).testBit utf8Flag = true)
      (hname : Utf8.decode? (slice record entryLength (fieldAt record 28 2)) = none) :
      RecordGrounds record .nameEncoding
  /-- It needs a later version of the format. -/
  | version (h : maxVersion < fieldAt record 6 1) : RecordGrounds record .version

/-- What in a member that is read from an archive is a ground to refuse it. -/
inductive MemberGrounds (bytes : List UInt8) (e : Entry) : Refusal → Prop where
  /-- The place of its header is no number of 64 bits. -/
  | placeWidth (h : e.place < -wideHalf ∨ wideHalf ≤ e.place) : MemberGrounds bytes e .placeWidth
  /-- Its header would stand before the archive, or behind all places that a file can have. -/
  | place (h : e.place < 0 ∨ lastPlace < e.place) : MemberGrounds bytes e .place
  /-- It is stored as changes to other data. -/
  | patch (h : e.flags.testBit 5 = true) : MemberGrounds bytes e .patch
  /-- The archive is encrypted as a whole. -/
  | strongEncryption (h : e.flags.testBit 6 = true) : MemberGrounds bytes e .strongEncryption
  /-- The name in its header is marked as UTF-8 and is none. -/
  | nameEncoding {header name : List UInt8} (hheader : header <:+: bytes) (hname : name <:+: bytes)
      (hflag : (fieldAt header 6 2).testBit utf8Flag = true) (h : Utf8.decode? name = none) :
      MemberGrounds bytes e .nameEncoding
  /-- It is encrypted. -/
  | password (h : e.flags.testBit 0 = true) : MemberGrounds bytes e .password
  /-- It is neither plain nor deflated, nor packed with bzip2 or LZMA. -/
  | method (h : e.method ∉ Packing.methods.map Prod.fst) : MemberGrounds bytes e .method
  /-- Its data is packed with bzip2, and faulty. -/
  | bzip2 {data : List UInt8} {fault : Bzip2.Fault} (hmethod : e.method = 12)
      (hdata : data <:+: bytes) (h : (Bzip2.run data).stop = .faulty fault) :
      MemberGrounds bytes e (.bzip2 fault)
  /-- Its data is packed with LZMA, and faulty. -/
  | lzma {data : List UInt8} {fault : Lzma.Fault} (hmethod : e.method = 14)
      (hdata : data <:+: bytes) (h : (Lzma.run data).stop = .faulty fault) :
      MemberGrounds bytes e (.lzma fault)

/-- The grounds to refuse an archive, in its directory or in one of its members. -/
inductive Grounds (bytes : List UInt8) (r : Refusal) : Prop where
  | record {record : List UInt8} (hrecord : record <:+: bytes)
      (hmark : entryMark.isPrefixOf record = true) (h : RecordGrounds record r)
  | member {a : Archive} {e : Entry} (harchive : Archive.ofBytes bytes = .ok a)
      (hentry : e ∈ a.entries) (h : MemberGrounds bytes e r)

/-! ## Refusals of work -/

/-- Work is refused only for what a predicate says. -/
def RefusedOnly {α : Type} (P : Refusal → Prop) (x : Except Failure α) : Prop :=
  ∀ r, x = .error (.refused r) → P r

variable {α β : Type} {P : Refusal → Prop} {x : Except Failure α} {f : α → Except Failure β}

theorem refusedOnly_ok (a : α) : RefusedOnly P (.ok a : Except Failure α) := fun _ h => by cases h

theorem refusedOnly_damaged (d : Damage) : RefusedOnly P (damaged d : Except Failure α) :=
  fun _ h => by cases h

theorem RefusedOnly.mono {Q : Refusal → Prop} (h : RefusedOnly P x) (hPQ : ∀ r, P r → Q r) :
    RefusedOnly Q x := fun r hr => hPQ r (h r hr)

theorem RefusedOnly.bind_of_ok (hx : RefusedOnly P x)
    (hf : ∀ a, x = .ok a → RefusedOnly P (f a)) : RefusedOnly P (x >>= f) := by
  intro r h
  cases x with
  | ok a => exact hf a rfl r h
  | error e =>
    obtain rfl : e = .refused r := Except.error.inj h
    exact hx r rfl

theorem RefusedOnly.bind (hx : RefusedOnly P x) (hf : ∀ a, RefusedOnly P (f a)) :
    RefusedOnly P (x >>= f) :=
  hx.bind_of_ok fun a _ => hf a

theorem refusedOnly_unless_refused {c : Prop} [Decidable c] {r : Refusal}
    {rest : Unit → Except Failure α} (hr : c → P r) (hrest : ¬c → RefusedOnly P (rest ())) :
    RefusedOnly P (if c then refused r >>= rest else rest ()) := by
  intro r' h
  split at h
  · rename_i hc
    cases h
    exact hr hc
  · rename_i hc
    exact hrest hc r' h

theorem refusedOnly_unless_damaged {c : Prop} [Decidable c] {d : Damage}
    {rest : Unit → Except Failure α} (hrest : ¬c → RefusedOnly P (rest ())) :
    RefusedOnly P (if c then damaged d >>= rest else rest ()) := by
  intro r h
  split at h
  · cases h
  · rename_i hc
    exact hrest hc r h

/-! ## The directory -/

theorem refusedOnly_decodeName {flags : Nat} {bytes : List UInt8}
    (h : flags.testBit utf8Flag = true → Utf8.decode? bytes = none → P .nameEncoding) :
    RefusedOnly P (decodeName flags bytes) := by
  unfold decodeName
  split
  · rename_i hflag
    cases hdecode : Utf8.decode? bytes with
    | some s => exact refusedOnly_ok _
    | none =>
      intro r hr
      cases hr
      exact h hflag hdecode
  · exact refusedOnly_ok _

theorem refusedOnly_takeWide (name : String) (isWide : Bool) (given : Nat) (field : List UInt8) :
    RefusedOnly P (takeWide name isWide given field) := by
  unfold takeWide
  split
  · exact refusedOnly_ok _
  · split
    · exact refusedOnly_damaged _
    · exact refusedOnly_ok _

theorem refusedOnly_readWide (field : List UInt8) (e : Entry) : RefusedOnly P (readWide field e) :=
  (refusedOnly_takeWide _ _ _ _).bind fun ⟨_, _⟩ =>
    (refusedOnly_takeWide _ _ _ _).bind fun ⟨_, _⟩ =>
      (refusedOnly_takeWide _ _ _ _).bind fun ⟨_, _⟩ => refusedOnly_ok _

theorem refusedOnly_readExtra (extra : List UInt8) (e : Entry) :
    RefusedOnly P (readExtra extra e) := by
  fun_induction readExtra extra e with
  | case1 => exact refusedOnly_ok _
  | case2 => exact refusedOnly_damaged _
  | case3 extra e hlength tag size hsize ih =>
    refine RefusedOnly.bind ?_ ih
    split
    · exact refusedOnly_readWide _ _
    · exact refusedOnly_ok _

/-- What a directory is refused for has its ground in one of its entries. -/
theorem refusedOnly_readEntries (shift : Int) (left : Nat) (bytes : List UInt8) :
    RefusedOnly
      (fun r => ∃ record, record <:+ bytes ∧ entryMark.isPrefixOf record = true ∧
        RecordGrounds record r)
      (readEntries shift left bytes) := by
  unfold readEntries
  split
  · exact refusedOnly_ok _
  split
  · exact refusedOnly_damaged _
  refine refusedOnly_unless_damaged fun hmark => ?_
  have hmark : entryMark.isPrefixOf bytes = true := by simpa using hmark
  refine (refusedOnly_decodeName fun hflag hname =>
    ⟨bytes, List.suffix_rfl, hmark, .nameEncoding hflag hname⟩).bind fun fullName => ?_
  refine refusedOnly_unless_refused
    (fun hversion => ⟨bytes, List.suffix_rfl, hmark, .version hversion⟩) fun _ => ?_
  refine (refusedOnly_readExtra _ _).bind fun entry => ?_
  refine RefusedOnly.bind ((refusedOnly_readEntries _ _ _).mono ?_) fun entries => refusedOnly_ok _
  rintro r ⟨record, hrecord, hgrounds⟩
  exact ⟨record, hrecord.trans (List.drop_suffix _ _), hgrounds⟩
termination_by bytes.length
decreasing_by simp only [List.length_drop, entryLength] at *; omega

theorem slice_isInfix (bytes : List UInt8) (start length : Nat) :
    slice bytes start length <:+: bytes :=
  (List.take_prefix _ _).isInfix.trans (List.drop_suffix _ _).isInfix

theorem refusedOnly_readExtent (bytes : List UInt8) (closing : Nat) :
    RefusedOnly P (readExtent bytes closing) := by
  unfold readExtent
  dsimp only
  split
  · exact refusedOnly_ok _
  · split
    · exact refusedOnly_damaged _
    · split
      · exact refusedOnly_damaged _
      · exact refusedOnly_ok _

theorem refusedOnly_ofBytes (bytes : List UInt8) :
    RefusedOnly (fun r => ∃ record, record <:+: bytes ∧ entryMark.isPrefixOf record = true ∧
      RecordGrounds record r) (Archive.ofBytes bytes) := by
  unfold Archive.ofBytes
  split
  · exact refusedOnly_damaged _
  · refine (refusedOnly_readExtent _ _).bind fun extent => ?_
    refine refusedOnly_unless_damaged fun _ => ?_
    refine RefusedOnly.bind ((refusedOnly_readEntries _ _ _).mono ?_) fun entries =>
      refusedOnly_ok _
    rintro r ⟨record, hrecord, hgrounds⟩
    exact ⟨record, hrecord.isInfix.trans (slice_isInfix _ _ _), hgrounds⟩

/-! ## Members -/

theorem refusedOnly_readMore (size present : Nat) (d : Delivery) :
    RefusedOnly P (d.readMore size present) := by
  unfold Delivery.readMore
  dsimp only
  split
  · exact refusedOnly_ok _
  · split
    · exact refusedOnly_damaged _
    · exact refusedOnly_ok _

/-- What the fault of packed data refuses. -/
def FaultRefuses (o : Outcome Fault) (r : Refusal) : Prop :=
  ∃ fault, o.stop = .faulty fault ∧ fault.failure = .refused r

theorem refusedOnly_makePortion (p : Packing) (o : Outcome Fault) (d : Delivery) :
    RefusedOnly (FaultRefuses o) (d.makePortion p o) := by
  unfold Delivery.makePortion
  dsimp only
  split
  · split
    · exact refusedOnly_ok _
    · exact refusedOnly_ok _
  · split
    · exact refusedOnly_ok _
    · split
      · exact refusedOnly_ok _
      · exact refusedOnly_ok _
      · rename_i fault hstop
        split
        · exact refusedOnly_ok _
        · exact fun r h => ⟨fault, hstop, Except.error.inj h⟩

theorem refusedOnly_run (p : Packing) (o : Outcome Fault) (size present length fuel : Nat)
    (d : Delivery) : RefusedOnly (FaultRefuses o) (d.run p o size present length fuel) := by
  fun_induction Delivery.run p o size present length fuel d with
  | case1 => exact refusedOnly_ok _
  | case2 fuel d ih =>
    refine (refusedOnly_readMore _ _ _).bind fun d' => ?_
    refine (refusedOnly_makePortion _ _ _).bind fun d'' => ?_
    dsimp only
    split
    · exact refusedOnly_ok _
    · exact ih _

theorem refusedOnly_deliver (p : Packing) (e : Entry) (packed : List UInt8) :
    RefusedOnly (FaultRefuses (p.outcome packed)) (p.deliver e packed) :=
  RefusedOnly.bind (refusedOnly_run _ _ _ _ _ _ _) fun _ => refusedOnly_ok _

theorem refusedOnly_checkSum (e : Entry) (content : List UInt8) :
    RefusedOnly P (checkSum e content) := by
  unfold checkSum
  split
  · exact refusedOnly_ok _
  · exact refusedOnly_damaged _

theorem exists_of_stop_mapFault {ε ε' : Type} {f : ε → ε'} {o : Outcome ε} {fault : ε'}
    (h : (o.mapFault f).stop = .faulty fault) :
    ∃ fault', o.stop = .faulty fault' ∧ fault = f fault' := by
  unfold Outcome.mapFault at h
  dsimp only at h
  split at h
  · cases h
  · cases h
  · rename_i fault' hstop
    exact ⟨fault', hstop, (Stop.faulty.inj h).symm⟩

theorem mem_methods_of_lookup {method : Nat} {p : Packing}
    (h : Packing.methods.lookup method = some p) : (method, p) ∈ Packing.methods := by
  obtain ⟨before, behind, hmethods, -⟩ := List.lookup_eq_some_iff.1 h
  rw [hmethods]
  exact List.mem_append_right _ List.mem_cons_self

/-- Faults of packed data that refuse the archive are faults of bzip2 or LZMA. -/
theorem memberGrounds_of_faultRefuses {bytes data : List UInt8} {e : Entry} {p : Packing}
    {r : Refusal} (hmethod : (e.method, p) ∈ Packing.methods) (hdata : data <:+: bytes)
    (h : FaultRefuses (p.outcome data) r) : MemberGrounds bytes e r := by
  obtain ⟨fault, hstop, hfailure⟩ := h
  cases p with
  | plain => cases hstop
  | deflated =>
    obtain ⟨inflateFault, -, rfl⟩ := exists_of_stop_mapFault hstop
    cases hfailure
  | bzip2 =>
    obtain ⟨bzip2Fault, hrun, rfl⟩ := exists_of_stop_mapFault hstop
    cases hfailure
    exact .bzip2 (by simpa [Packing.methods] using hmethod) hdata hrun
  | lzma =>
    obtain ⟨lzmaFault, hrun, rfl⟩ := exists_of_stop_mapFault hstop
    cases hfailure
    exact .lzma (by simpa [Packing.methods] using hmethod) hdata hrun

theorem refusedOnly_openEntry (a : Archive) (before : List Entry) (e : Entry) :
    RefusedOnly (MemberGrounds a.bytes e) (a.openEntry before e) := by
  unfold Archive.openEntry
  -- the checks, in the order in which they are made
  refine refusedOnly_unless_refused .placeWidth fun _ => ?_
  refine refusedOnly_unless_refused .place fun _ => ?_
  refine refusedOnly_unless_damaged fun _ => ?_
  refine refusedOnly_unless_damaged fun _ => ?_
  refine refusedOnly_unless_refused .patch fun _ => ?_
  refine refusedOnly_unless_refused .strongEncryption fun _ => ?_
  refine (refusedOnly_decodeName fun hflag hname =>
    .nameEncoding (slice_isInfix _ _ _) (slice_isInfix _ _ _) hflag hname).bind fun name => ?_
  refine refusedOnly_unless_damaged fun _ => ?_
  refine refusedOnly_unless_damaged fun _ => ?_
  refine refusedOnly_unless_refused .password fun _ => ?_
  split
  · rename_i hmethod
    intro r hr
    cases hr
    refine .method fun hmem => ?_
    obtain ⟨pair, hpair, heq⟩ := List.mem_map.1 hmem
    exact absurd heq.symm (by simpa using List.lookup_eq_none_iff.1 hmethod pair hpair)
  · exact refusedOnly_ok _

/-- What succeeds goes through its checks. -/
theorem of_unless {α : Type} {c : Prop} [Decidable c] {failure : Failure}
    {rest : Unit → Except Failure α} {a : α}
    (h : (if c then (.error failure : Except Failure Unit) >>= rest else rest ()) = .ok a) :
    rest () = .ok a := by
  split at h
  · cases h
  · exact h

/-- What is opened stands in the archive, and is packed by the method of the entry. -/
theorem packing_of_openEntry {a : Archive} {before : List Entry} {e : Entry} {p : Packing}
    {packed : List UInt8} (h : a.openEntry before e = .ok (p, packed)) :
    (e.method, p) ∈ Packing.methods ∧ packed <:+: a.bytes := by
  unfold Archive.openEntry at h
  have h := of_unless (of_unless h)
  have h := of_unless (of_unless h)
  have h := of_unless (of_unless h)
  obtain ⟨name, -, h⟩ := exists_of_bind h
  have h := of_unless (of_unless (of_unless h))
  split at h
  · cases h
  · rename_i packing hmethod
    cases h
    exact ⟨mem_methods_of_lookup hmethod, slice_isInfix _ _ _⟩

theorem refusedOnly_readEntry (a : Archive) (before : List Entry) (e : Entry) :
    RefusedOnly (MemberGrounds a.bytes e) (a.readEntry before e) := by
  refine RefusedOnly.bind ?_ fun content => refusedOnly_checkSum e content
  refine (refusedOnly_openEntry a before e).bind_of_ok fun ⟨p, packed⟩ hopen => ?_
  obtain ⟨hmethod, hpacked⟩ := packing_of_openEntry hopen
  exact (refusedOnly_deliver p e packed).mono fun r =>
    memberGrounds_of_faultRefuses hmethod hpacked

/-- The last entry with a name is found if there is one. -/
theorem findLast?_spec (name : String) (entries : List Entry) :
    match findLast? name entries with
    | some (_, e) => e ∈ entries
    | none => name ∉ entries.map Entry.name := by
  induction entries with
  | nil => exact List.not_mem_nil
  | cons e entries ih =>
    unfold findLast?
    cases hrest : findLast? name entries with
    | some found =>
      rw [hrest] at ih
      exact List.mem_cons_of_mem _ ih
    | none =>
      rw [hrest] at ih
      dsimp only
      by_cases hname : e.name = name
      · rw [if_pos hname]
        exact List.mem_cons_self
      · rw [if_neg hname]
        simpa [Ne.symm hname] using ih

/-- What a listed member is refused for has its ground in it. -/
theorem refusedOnly_read {a : Archive} {name : String} (h : name ∈ a.names) :
    RefusedOnly (fun r => ∃ e ∈ a.entries, MemberGrounds a.bytes e r) (a.read name) := by
  have hfound := findLast?_spec name a.entries
  unfold Archive.read
  cases hlast : findLast? name a.entries with
  | some found =>
    rw [hlast] at hfound
    exact (refusedOnly_readEntry a found.1 found.2).mono fun r hr => ⟨found.2, hfound, hr⟩
  | none =>
    rw [hlast] at hfound
    exact absurd h hfound

end SectionTimes.Zip
