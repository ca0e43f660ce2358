import TelegramDrive.Workspace.OfflinePacks

namespace TelegramDrive
namespace Workspace

/-!
# Changes of a pack's record

Every change of a record keeps the files of its items, and expired items stay expired.  A
change says besides what it may do: make a run the active one, expire the pack, lift
cancellations, make items ready.  A pack that is ready has no active run, and all its items
are ready.
-/

/-! ## Items -/

namespace PackItem

/-- The user cancelled the item, or its pack expired. -/
def Barred (item : PackItem) : Prop := item.status = .cancelled ∨ item.status = .expired

/-- What a change of an item keeps, and what it may do: expire it, lift a cancellation, make
it ready. -/
structure Changes (expires unbars readies : Prop) (one next : PackItem) : Prop where
  file : next.file = one.file
  expired : one.status = .expired -> next.status = .expired
  unexpired : next.status = .expired -> expires ∨ one.status = .expired
  barred : one.Barred -> unbars ∨ next.Barred
  unready : next.status = .ready -> readies ∨ one.status = .ready

variable (item : PackItem) {unbars readies : Prop}

theorem Changes.same : Changes False unbars readies item item where
  file := rfl
  expired := id
  unexpired := Or.inr
  barred := Or.inr
  unready := Or.inr

theorem Changes.move {next : PackItem} (file : next.file = item.file) (before : item.status ≠ .expired)
    (behind : next.status ≠ .expired) (barred : item.status = .cancelled -> unbars ∨ next.status = .cancelled)
    (unready : next.status = .ready -> readies ∨ item.status = .ready) : Changes False unbars readies item next where
  file := file
  expired := fun expired => absurd expired before
  unexpired := fun expired => absurd expired behind
  barred := fun was => was.elim (fun cancelled => (barred cancelled).imp id Or.inl) fun expired => absurd expired before
  unready := unready

theorem Changes.moveFrom {next : PackItem} {was : ItemStatus} (becomes : ItemStatus) (file : next.file = item.file)
    (before : item.status = was) (behind : next.status = becomes)
    (legal : was ≠ .expired ∧ was ≠ .cancelled ∧ becomes ≠ .expired) (unready : becomes = .ready -> readies) :
    Changes False unbars readies item next := by
  refine Changes.move item file ?_ ?_ ?_ ?_
  · rw [before]
    exact legal.1
  · rw [behind]
    exact legal.2.2
  · intro cancelled
    rw [before] at cancelled
    exact absurd cancelled legal.2.1
  · intro ready
    rw [behind] at ready
    exact Or.inl (unready ready)

theorem expire_changes : Changes True unbars readies item item.expire where
  file := rfl
  expired := fun _ => rfl
  unexpired := fun _ => Or.inl trivial
  barred := fun _ => Or.inr (Or.inr rfl)
  unready := fun ready => by cases ready

/-- Maintenance makes an item ready when its copy is complete. -/
theorem reconcile_changes (running complete : Bool) :
    Changes False unbars (complete = true) item (item.reconcile running complete) := by
  unfold reconcile
  split
  next missing =>
    rw [Bool.and_eq_true, beq_iff_eq] at missing
    exact Changes.moveFrom item .pending rfl missing.1 rfl (by decide) fun ready => by cases ready
  · split
    next found =>
      rw [Bool.and_eq_true, Bool.and_eq_true, Bool.or_eq_true, Bool.or_eq_true, beq_iff_eq, beq_iff_eq,
        beq_iff_eq] at found
      rcases found with ⟨⟨_, copied⟩, (same | same) | same⟩
      · exact Changes.moveFrom item .ready rfl same rfl (by decide) fun _ => copied
      · exact Changes.moveFrom item .ready rfl same rfl (by decide) fun _ => copied
      · exact Changes.moveFrom item .ready rfl same rfl (by decide) fun _ => copied
    · split
      next stopped =>
        rw [Bool.and_eq_true, beq_iff_eq] at stopped
        exact Changes.moveFrom item .pending rfl stopped.2 rfl (by decide) fun ready => by cases ready
      · exact Changes.same item

theorem reconcile_complete (running : Bool) (ready : item.status = .ready) : item.reconcile running true = item := by
  unfold reconcile
  rw [ready]
  cases running <;> rfl

theorem retry_changes : Changes False True readies item item.retry := by
  unfold retry
  split
  next again =>
    rw [Bool.or_eq_true, Bool.or_eq_true, beq_iff_eq, beq_iff_eq, beq_iff_eq] at again
    refine Changes.move item rfl ?_ (fun impossible => by cases impossible) (fun _ => Or.inl trivial) fun ready => by
      cases ready
    rcases again with (same | same) | same <;> rw [same] <;> decide
  · exact Changes.same item

theorem retry_ready (ready : item.status = .ready) : item.retry = item := by
  unfold retry
  rw [ready]
  rfl

theorem stop_changes : Changes False unbars readies item item.stop := by
  unfold stop
  split
  next active =>
    rw [beq_iff_eq] at active
    exact Changes.moveFrom item .pending rfl active rfl (by decide) fun ready => by cases ready
  · exact Changes.same item

theorem progress_changes (bytes : Nat) : Changes False unbars readies item (item.progress bytes) := by
  unfold progress
  split
  · exact ⟨rfl, id, Or.inr, Or.inr, Or.inr⟩
  · exact Changes.same item

theorem store_changes (size : Nat) (before : item.status ≠ .expired) :
    Changes False unbars True item (item.store size) := by
  unfold store
  split
  · exact Changes.same item
  next kept =>
    rw [beq_iff_eq] at kept
    exact Changes.move item rfl before (fun impossible => by cases impossible) (fun cancelled => absurd cancelled kept)
      fun _ => Or.inl trivial

theorem note_changes (waiting : Bool) (error : String) (before : item.status ≠ .expired)
    (kept : item.status ≠ .cancelled) : Changes False unbars readies item (item.note waiting error) := by
  refine Changes.move item rfl before ?_ (fun cancelled => absurd cancelled kept) ?_
  · cases waiting <;> intro impossible <;> cases impossible
  · cases waiting <;> intro impossible <;> cases impossible

end PackItem

/-! ## Records -/

namespace OfflinePack

def statusAt (pack : OfflinePack) (index : Nat) : Option ItemStatus := (pack.files[index]?).map PackItem.status

def fileAt (pack : OfflinePack) (index : Nat) : Option PackFile := (pack.files[index]?).map PackItem.file

/-- What a change of a record keeps, and what it may do: make a run the active one, expire the
pack, lift cancellations, make items ready. -/
structure Changes (launched : Option Nat) (expires : Prop) (unbars readies : Nat -> Prop)
    (one next : OfflinePack) : Prop where
  expiresAt : next.expiresAt = one.expiresAt
  items : forall index : Nat,
    Option.Rel (PackItem.Changes expires (unbars index) (readies index)) one.files[index]? next.files[index]?
  active : forall run, next.activeRun = some run -> launched = some run ∨ one.activeRun = some run ∧ ¬expires

def Nothing : Nat -> Prop := fun _ => False

variable {launched : Option Nat} {expires : Prop} {unbars readies : Nat -> Prop} {one next : OfflinePack}

variable {relation : Nat -> PackItem -> PackItem -> Prop}

theorem related_map {change : PackItem -> PackItem}
    (files : List PackItem) (related : forall (index : Nat) item, files[index]? = some item -> relation index item (change item))
    (index : Nat) : Option.Rel (relation index) files[index]? (files.map change)[index]? := by
  rw [List.getElem?_map]
  cases found : files[index]? with
  | none => exact .none
  | some item => exact .some (related index item found)

theorem related_modify {change : PackItem -> PackItem} {here : Nat}
    (files : List PackItem) (related : forall item, files[here]? = some item -> relation here item (change item))
    (elsewhere : forall index item, index ≠ here -> relation index item item)
    (index : Nat) : Option.Rel (relation index) files[index]? (files.modify here change)[index]? := by
  rw [List.getElem?_modify]
  cases found : files[index]? with
  | none => exact .none
  | some item =>
    refine .some ?_
    split
    next same =>
      subst same
      exact related item found
    next other => exact elsewhere index item fun same => other same.symm

theorem related_same (files : List PackItem)
    (related : forall index item, relation index item item) (index : Nat) :
    Option.Rel (relation index) files[index]? files[index]? := by
  cases files[index]? with
  | none => exact .none
  | some item => exact .some (related index item)

theorem Changes.behind {index : Nat} {after : PackItem} (changes : Changes launched expires unbars readies one next)
    (found : next.files[index]? = some after) :
    Exists fun item => one.files[index]? = some item ∧
      PackItem.Changes expires (unbars index) (readies index) item after := by
  have related := changes.items index
  rw [found] at related
  generalize one.files[index]? = before at related
  cases related with
  | some keeps => exact ⟨_, rfl, keeps⟩

theorem Changes.before {index : Nat} {item : PackItem} (changes : Changes launched expires unbars readies one next)
    (found : one.files[index]? = some item) :
    Exists fun after => next.files[index]? = some after ∧
      PackItem.Changes expires (unbars index) (readies index) item after := by
  have related := changes.items index
  rw [found] at related
  generalize next.files[index]? = after at related
  cases related with
  | some keeps => exact ⟨_, rfl, keeps⟩

theorem Changes.fileAt {index : Nat} {file : PackFile} (changes : Changes launched expires unbars readies one next)
    (found : one.fileAt index = some file) : next.fileAt index = some file := by
  unfold OfflinePack.fileAt at found
  rw [Option.map_eq_some_iff] at found
  rcases found with ⟨item, found, same⟩
  rcases changes.before found with ⟨after, behind, keeps⟩
  unfold OfflinePack.fileAt
  rw [behind, ← same, ← keeps.file]
  rfl

theorem Changes.allExpired (changes : Changes launched expires unbars readies one next)
    (expired : forall item, item ∈ one.files -> item.status = .expired) :
    forall item, item ∈ next.files -> item.status = .expired := by
  intro after member
  rcases List.getElem?_of_mem member with ⟨index, found⟩
  rcases changes.behind found with ⟨item, before, keeps⟩
  exact keeps.expired (expired item (List.mem_of_getElem? before))

theorem Changes.becameReady {index : Nat} (changes : Changes launched expires unbars readies one next)
    (ready : next.statusAt index = some .ready) (before : one.statusAt index ≠ some .ready) : readies index := by
  unfold statusAt at ready before
  rw [Option.map_eq_some_iff] at ready
  rcases ready with ⟨after, found, ready⟩
  rcases changes.behind found with ⟨item, was, keeps⟩
  rw [was] at before
  rcases keeps.unready ready with may | ready
  · exact may
  · exact absurd (congrArg some ready) before

theorem Changes.unexpired {index : Nat} (changes : Changes launched expires unbars readies one next)
    (spared : ¬expires) (before : one.statusAt index ≠ some .expired) : next.statusAt index ≠ some .expired := by
  intro expired
  unfold statusAt at expired before
  rw [Option.map_eq_some_iff] at expired
  rcases expired with ⟨after, found, expired⟩
  rcases changes.behind found with ⟨item, was, keeps⟩
  rw [was] at before
  rcases keeps.unexpired expired with may | expired
  · exact spared may
  · exact before (congrArg some expired)

/-- The items that the user cancelled are barred. -/
def Respects (cancelled : List Nat) (pack : OfflinePack) : Prop :=
  forall index, index ∈ cancelled -> Exists fun item => pack.files[index]? = some item ∧ item.Barred

theorem Changes.respects {cancelled : List Nat} (changes : Changes launched expires unbars readies one next)
    (respects : Respects cancelled one) (spared : forall index, index ∈ cancelled -> ¬unbars index) :
    Respects cancelled next := by
  intro index member
  rcases respects index member with ⟨item, found, barred⟩
  rcases changes.before found with ⟨after, behind, keeps⟩
  rcases keeps.barred barred with may | barred
  · exact absurd may (spared index member)
  · exact ⟨after, behind, barred⟩

theorem Changes.stamped (changes : Changes launched expires unbars readies one next) (now : Int) :
    Changes launched expires unbars readies one (next.stamped now) :=
  ⟨changes.expiresAt, changes.items, changes.active⟩

theorem Changes.wait (changes : Changes launched expires unbars readies one next) (reason : String) :
    Changes launched expires unbars readies one (next.wait reason) :=
  ⟨changes.expiresAt, changes.items, changes.active⟩

end OfflinePack

/-! ## What changes a record -/

namespace OfflinePack

variable (pack : OfflinePack) {readies : Nat -> Prop}

/-- A pack that is ready has no active run, and all its items are ready. -/
def Settled : Prop := pack.status = .ready -> pack.activeRun = none ∧ pack.allReady = true

theorem allReady_iff : pack.allReady = true ↔ forall item, item ∈ pack.files -> item.status = .ready := by
  unfold allReady
  rw [List.all_eq_true]
  simp only [beq_iff_eq]

theorem expire_changes : Changes none True Nothing Nothing pack pack.expire where
  expiresAt := rfl
  items := related_map pack.files fun _ item _ => item.expire_changes
  active := fun run active => by cases active

theorem conclude_parts (running : Bool) : (pack.conclude running).expiresAt = pack.expiresAt ∧
    (pack.conclude running).files = pack.files ∧ (pack.conclude running).activeRun = pack.activeRun := by
  unfold conclude
  split
  · exact ⟨rfl, rfl, rfl⟩
  · split <;> exact ⟨rfl, rfl, rfl⟩

/-- Without a job, the pack is ready exactly when all its items are. -/
theorem conclude_settled (idle : pack.activeRun = none) : (pack.conclude false).Settled := by
  intro ready
  refine ⟨(pack.conclude_parts false).2.2.trans idle, ?_⟩
  have files := (pack.conclude_parts false).2.1
  unfold allReady
  rw [files]
  show pack.allReady = true
  unfold conclude at ready
  rw [Bool.not_false, Bool.true_and, Bool.true_and] at ready
  split at ready
  next all =>
    rw [Bool.and_eq_true] at all
    exact all.1
  · split at ready
    · cases ready
    next kept =>
      rw [ready, Bool.and_eq_true, not_and, Bool.not_eq_true', Bool.not_eq_false] at kept
      exact kept rfl

theorem reconcile_parts (running : Bool) (complete : PackFile -> Bool) :
    (pack.reconcile running complete).expiresAt = pack.expiresAt ∧
      (pack.reconcile running complete).files =
        pack.files.map (fun item => item.reconcile running (complete item.file)) ∧
      (pack.reconcile running complete).activeRun = if running then pack.activeRun else none := by
  unfold reconcile
  rcases conclude_parts ((if running then pack else pack.settle).reconcileItems running complete) running with
    ⟨expiresAt, files, active⟩
  rw [expiresAt, files, active]
  cases running <;> exact ⟨rfl, rfl, rfl⟩

theorem reconcile_changes (running : Bool) (complete : PackFile -> Bool) :
    Changes none False Nothing
      (fun index => Exists fun file => pack.fileAt index = some file ∧ complete file = true)
      pack (pack.reconcile running complete) := by
  rcases pack.reconcile_parts running complete with ⟨expiresAt, files, active⟩
  refine ⟨expiresAt, ?_, ?_⟩
  · rw [files]
    refine related_map pack.files fun index item found => ?_
    have changes : PackItem.Changes False (Nothing index) (complete item.file = true) item
        (item.reconcile running (complete item.file)) := item.reconcile_changes running _
    refine ⟨changes.file, changes.expired, changes.unexpired, changes.barred, fun ready => ?_⟩
    refine (changes.unready ready).imp (fun copied => ⟨item.file, ?_, copied⟩) id
    unfold fileAt
    rw [found]
    rfl
  · intro run is
    rw [active] at is
    cases running with
    | true => exact Or.inr ⟨is, id⟩
    | false => cases is

/-- Maintenance keeps a pack settled, if it finds the copies of a ready pack that has a job. -/
theorem reconcile_settled {running : Bool} {complete : PackFile -> Bool} (settled : pack.Settled)
    (found : running = true -> pack.status = .ready -> forall item, item ∈ pack.files -> complete item.file = true) :
    (pack.reconcile running complete).Settled := by
  cases running with
  | false => exact conclude_settled (pack.settle.reconcileItems false complete) rfl
  | true =>
    intro ready
    have was : pack.status = .ready := ready
    rcases settled was with ⟨none, all⟩
    rcases pack.reconcile_parts true complete with ⟨_, files, active⟩
    refine ⟨active.trans none, ?_⟩
    rw [allReady_iff, files]
    intro after member
    rcases List.mem_map.mp member with ⟨item, inside, same⟩
    have before := pack.allReady_iff.mp all item inside
    rw [← same, found rfl was item inside, item.reconcile_complete true before]
    exact before

theorem modify_changes (index : Nat) {change : PackItem -> PackItem}
    (changes : forall item, pack.files[index]? = some item ->
      PackItem.Changes False (unbars index) (readies index) item (change item)) :
    Changes none False unbars readies pack (pack.modifyItem index change) where
  expiresAt := rfl
  items := related_modify pack.files changes fun _ item _ => PackItem.Changes.same item
  active := fun _ active => Or.inr ⟨active, id⟩

theorem same_changes {next : OfflinePack} (expiresAt : next.expiresAt = pack.expiresAt) (files : next.files = pack.files)
    (active : forall run, next.activeRun = some run -> launched = some run ∨ pack.activeRun = some run) :
    Changes launched False unbars readies pack next where
  expiresAt := expiresAt
  items := by
    rw [files]
    exact related_same pack.files fun _ item => PackItem.Changes.same item
  active := fun run is => (active run is).imp id fun was => ⟨was, id⟩

theorem retry_changes : Changes none False (fun _ => True) Nothing pack
    { pack with files := pack.files.map PackItem.retry } where
  expiresAt := rfl
  items := related_map pack.files fun _ item _ => item.retry_changes
  active := fun _ active => Or.inr ⟨active, id⟩

theorem retry_settled (settled : pack.Settled) :
    ({ pack with files := pack.files.map PackItem.retry } : OfflinePack).Settled := by
  intro ready
  rcases settled ready with ⟨none, all⟩
  refine ⟨none, ?_⟩
  rw [allReady_iff]
  intro after member
  rcases List.mem_map.mp member with ⟨item, inside, same⟩
  have before := pack.allReady_iff.mp all item inside
  rw [← same, item.retry_ready before]
  exact before

theorem halt_changes (status : PackStatus) : Changes none False Nothing Nothing pack (pack.halt status) where
  expiresAt := rfl
  items := related_map pack.files fun _ item _ => item.stop_changes
  active := fun run active => by cases active

end OfflinePack

/-! ## Actions -/

theorem PackItem.isSettled_false {item : PackItem} (open_ : item.isSettled = false) :
    item.status ≠ .ready ∧ item.status ≠ .expired := by
  unfold PackItem.isSettled at open_
  rw [Bool.or_eq_false_iff, Bool.or_eq_false_iff, beq_eq_false_iff_ne, beq_eq_false_iff_ne, beq_eq_false_iff_ne] at open_
  exact ⟨open_.1.1, open_.2⟩

theorem PackItem.reset_changes {item : PackItem} {status : ItemStatus} (open_ : item.isSettled = false)
    (legal : status ≠ .expired ∧ status ≠ .ready) {readies : Prop} :
    Changes False (status ≠ .cancelled) readies item (item.reset status) := by
  refine Changes.move item rfl (isSettled_false open_).2 legal.1 ?_ fun ready => absurd ready legal.2
  intro _
  by_cases same : status = .cancelled
  · exact Or.inr same
  · exact Or.inl same

namespace OfflinePack

variable (pack : OfflinePack) {readies : Nat -> Prop}

theorem settled_of_status {pack : OfflinePack} (other : pack.status ≠ .ready) : pack.Settled :=
  fun ready => absurd ready other

variable {key : Option String} {next : OfflinePack}

theorem actOnItem_cases {status : ItemStatus} {now : Int} (acted : pack.actOnItem key status now = .ok next) :
    next = pack ∧ pack.actedOn key = none ∨
      Exists fun index => Exists fun item => pack.actedOn key = some index ∧ pack.files[index]? = some item ∧
        item.isSettled = false ∧ next = (pack.modifyItem index fun item => item.reset status).stamped now := by
  unfold actOnItem at acted
  cases key with
  | none => cases acted
  | some key =>
    dsimp only at acted
    cases found : pack.indexOf key with
    | none =>
      rw [found] at acted
      cases acted
    | some index =>
      rw [found] at acted
      have about : pack.actedOn (some key) =
          if !(pack.files[index]?).any PackItem.isSettled then some index else none := by
        unfold actedOn
        rw [Option.bind_some, found]
        rfl
      dsimp only at acted
      split at acted
      next settled =>
        rw [settled] at about
        cases acted
        exact Or.inl ⟨rfl, about⟩
      next open_ =>
        rw [Bool.not_eq_true] at open_
        rw [open_] at about
        cases acted
        have inside : index < pack.files.length := List.findIdx?_eq_some_iff_getElem.mp found |>.1
        refine Or.inr ⟨index, pack.files[index], about, List.getElem?_eq_getElem inside, ?_, rfl⟩
        rw [List.getElem?_eq_getElem inside] at open_
        exact open_

theorem actOnItem_changes {status : ItemStatus} {now : Int}
    (legal : status ≠ .expired ∧ status ≠ .ready) (acted : pack.actOnItem key status now = .ok next) :
    Changes none False (fun index => pack.actedOn key = some index ∧ status ≠ .cancelled) Nothing pack next := by
  rcases pack.actOnItem_cases acted with ⟨same, -⟩ | ⟨index, item, about, found, open_, same⟩
  · rw [same]
    exact pack.same_changes rfl rfl fun _ => Or.inr
  · rw [same]
    refine Changes.stamped (pack.modify_changes index fun other here => ?_) now
    rw [found] at here
    cases here
    have changes : PackItem.Changes False (status ≠ .cancelled) (Nothing index) item (item.reset status) :=
      PackItem.reset_changes open_ legal
    exact ⟨changes.file, changes.expired, changes.unexpired,
      fun barred => (changes.barred barred).imp (fun other => ⟨about, other⟩) id, changes.unready⟩

/-- An action on an item leaves a ready pack alone. -/
theorem actOnItem_settled {status : ItemStatus} {now : Int}
    (settled : pack.Settled) (acted : pack.actOnItem key status now = .ok next) : next.Settled := by
  rcases pack.actOnItem_cases acted with ⟨same, -⟩ | ⟨index, item, -, found, open_, same⟩
  · rw [same]
    exact settled
  · refine settled_of_status ?_
    rw [same]
    intro ready
    have all := pack.allReady_iff.mp (settled ready).2 item (List.mem_of_getElem? found)
    exact (PackItem.isSettled_false open_).1 all

/-- An action makes no item ready, and the items that count as cancelled behind it are barred. -/
theorem act_changes {action : PackAction} {now : Int}
    {cancelled : List Nat} (acted : pack.act action key now = .ok next) (respects : Respects cancelled pack) :
    (Exists fun unbars => Changes none False unbars Nothing pack next) ∧
      Respects (cancellations pack action key cancelled) next := by
  cases action with
  | start | retry =>
    unfold act at acted
    dsimp only at acted
    split at acted
    · cases acted
    · cases acted
      refine ⟨⟨_, Changes.stamped pack.retry_changes now⟩, ?_⟩
      intro index member
      cases member
  | retryFile =>
    have changes := pack.actOnItem_changes ⟨by decide, by decide⟩ acted
    refine ⟨⟨_, changes⟩, ?_⟩
    refine changes.respects (fun index member => respects index (List.mem_of_mem_filter member)) ?_
    intro index member unbars
    exact of_decide_eq_true (List.mem_filter.mp member).2 unbars.1
  | cancelFile =>
    have changes := pack.actOnItem_changes ⟨by decide, by decide⟩ acted
    refine ⟨⟨_, changes⟩, ?_⟩
    have kept : Respects cancelled next := changes.respects respects fun _ _ unbars => unbars.2 rfl
    intro index member
    rcases List.mem_append.mp member with this | member
    · rcases pack.actOnItem_cases acted with ⟨-, about⟩ | ⟨here, item, about, found, -, same⟩
      · rw [about] at this
        cases this
      · rw [about, Option.toList_some, List.mem_singleton] at this
        refine ⟨item.reset .cancelled, ?_, Or.inl rfl⟩
        rw [this, same]
        show (pack.files.modify here _)[here]? = _
        rw [List.getElem?_modify_eq, found]
        rfl
    · exact kept index member
  | pause | remove | cancel =>
    cases acted
    exact ⟨⟨_, (pack.halt_changes _).stamped now⟩,
      ((pack.halt_changes _).stamped now).respects respects fun _ _ => id⟩
  | unknown => cases acted

theorem act_settled {action : PackAction} {now : Int}
    (settled : pack.Settled) (acted : pack.act action key now = .ok next) : next.Settled := by
  cases action with
  | start | retry =>
    unfold act at acted
    dsimp only at acted
    split at acted
    · cases acted
    · cases acted
      exact pack.retry_settled settled
  | retryFile | cancelFile => exact pack.actOnItem_settled settled acted
  | pause | remove | cancel =>
    cases acted
    exact settled_of_status fun ready => by cases ready
  | unknown => cases acted

/-! ## Changes by a run -/

theorem Settled.unready {pack : OfflinePack} {run : Nat} (settled : pack.Settled) (active : pack.activeRun = some run) :
    pack.status ≠ .ready := by
  intro ready
  rw [(settled ready).1] at active
  cases active

theorem launch_changes (run : Nat) : Changes (some run) False Nothing Nothing pack (pack.launch run) :=
  pack.same_changes rfl rfl fun _ => Or.inl

theorem finish_changes : Changes none False Nothing Nothing pack pack.finish :=
  pack.same_changes rfl rfl fun _ active => by cases active

theorem finish_settled : pack.finish.Settled := by
  intro ready
  refine ⟨rfl, ?_⟩
  unfold finish at ready
  dsimp only at ready
  split at ready
  next all => exact all
  · cases ready

theorem wait_changes (reason : String) : Changes none False Nothing Nothing pack (pack.wait reason) :=
  pack.same_changes rfl rfl fun _ => Or.inr

theorem fail_changes (error : String) : Changes none False Nothing Nothing pack (pack.fail error) :=
  pack.same_changes rfl rfl fun _ active => by cases active

theorem progress_changes (index bytes : Nat) : Changes none False Nothing Nothing pack (pack.progress index bytes) :=
  pack.modify_changes index fun item _ => item.progress_changes bytes

theorem unexpired_at {index : Nat} {item : PackItem} (spared : pack.statusAt index ≠ some .expired)
    (found : pack.files[index]? = some item) : item.status ≠ .expired := by
  intro expired
  apply spared
  unfold statusAt
  rw [found, Option.map_some, expired]

theorem store_changes {index : Nat} (size : Nat) (spared : pack.statusAt index ≠ some .expired) :
    Changes none False Nothing (fun other => other = index) pack (pack.store index size) := by
  refine pack.modify_changes index fun item found => ?_
  have changes : PackItem.Changes False (Nothing index) True item (item.store size) :=
    item.store_changes size (pack.unexpired_at spared found)
  exact ⟨changes.file, changes.expired, changes.unexpired, changes.barred,
    fun ready => (changes.unready ready).imp (fun _ => rfl) id⟩

theorem mark_changes {index : Nat} (spared : pack.statusAt index ≠ some .expired) :
    Changes none False (fun other => other = index) Nothing pack (pack.mark index) := by
  have changes : Changes none False (fun other => other = index) Nothing pack
      (pack.modifyItem index fun item => item.reset .downloading) := by
    refine pack.modify_changes index fun item found => ?_
    exact PackItem.Changes.move item rfl (pack.unexpired_at spared found) (fun impossible => by cases impossible)
      (fun _ => Or.inl rfl) fun ready => by cases ready
  exact ⟨changes.expiresAt, changes.items, changes.active⟩

theorem note_changes {index : Nat} (error : String) (lost : Bool) (spared : pack.statusAt index ≠ some .expired) :
    Changes none False Nothing Nothing pack (pack.note index error lost) := by
  unfold note
  dsimp only
  split
  · exact pack.same_changes rfl rfl fun _ => Or.inr
  next kept =>
    have changes : forall waiting : Bool, Changes none False Nothing Nothing pack
        (pack.modifyItem index fun item => item.note waiting error) := by
      intro waiting
      refine pack.modify_changes index fun item found => ?_
      refine item.note_changes waiting error (pack.unexpired_at spared found) ?_
      intro cancelled
      apply kept
      unfold isCancelled
      rw [found, Option.any_some, cancelled]
      rfl
    split
    · exact (changes _).wait _
    · exact changes _

theorem note_status {index : Nat} {error : String} {lost : Bool} (other : pack.status ≠ .ready) :
    (pack.note index error lost).status ≠ .ready := by
  unfold note
  dsimp only
  split
  · exact other
  · split
    · intro impossible
      cases impossible
    · exact other

end OfflinePack

end Workspace
end TelegramDrive
