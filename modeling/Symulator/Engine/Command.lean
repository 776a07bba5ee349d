import Symulator.Engine.Types

/-! # Operator commands -/

namespace Symulator.Engine

set_option autoImplicit false

structure SetSwitchPositionCmd where
  uid : UID
  position : SwitchPosition

structure SetSignalAspectCmd where
  uid : UID
  aspect : SignalAspect

structure SetDerailerPositionCmd where
  uid : UID
  position : DerailerState

structure SetBlockSectionCmd where
  uid : UID
  state : BlockSectionState

structure RequestRouteCmd where
  fromSignalUid : UID
  toSignalUid : UID

structure CancelRouteCmd where
  routeUid : UID
  force : Bool := false

structure AcknowledgeAlarmCmd where
  alarmUid : UID

inductive Shl12Op
  | blw | blp | blo | blz | blai | bla | ops
deriving DecidableEq, Repr

structure SetBlockDirectionCmd where
  blockSectionUid : UID
  operation : Shl12Op

structure InitAxleCounterResetCmd where
  blockSectionUid : UID

structure ResetAxleCounterCmd where
  blockSectionUid : UID

inductive OperatorTargetKind
  | signal | switch | derailer | trackSection | blockSection | axleCounterSystem | station | route
  | levelCrossing | interlockingComputer | powerSupply
deriving DecidableEq, Repr

inductive OperatorCommandCode
  | ses | seo | szi | szw | szn | szo | sam | saw | zwp | zwm | zws | zwo | its | ito | zwb | zbp
  | zbm | zri | zrk | ops | sli | slk | blw | blp | blo | blz | blai | bla | bls | ost | zkb | pzm
  | ozk | zesi | zes | pzzi | pzz | poz | dpoi | dpo | dkoi | dko | dkpi | dkp | bpz | dpwi | dpw
  | btw | bto | bpo | bko | pdz | pdo | pzt | paz | pzo | pdii | pdi | mrs | ods | zal | poc | pza
  | pzai | pzw | sso | sss | upai | upa | upao | upn | upo | zso | zss
deriving DecidableEq, Repr

structure OperatorCommandCmd where
  targetUid : UID
  targetKind : OperatorTargetKind
  code : OperatorCommandCode

inductive Ml8CommandCode
  | ak | azk | blz | blzc | dop | dops | dpz | hmi | kra | ksr | lka | loff | man | npu | npw | npz
  | ogi | op | opo | ostop | otb | ote | oteyyy | otp | otpon | ot | otz | ouz | ouzDr | ouzDz | ouzJn
  | ouzPj | ouzX | ouzZn | owbl | ozcz | p | poc | pot | pzk | ppn | ppz | pz | pzb | pzs | spec | stj
  | stoj | stop | sz | nsz | wbl | wpn | wpz | wz | zcz | zdm | zdp | zerolo | zi | zo | zpo | zw | zwbl
  | z | zDr | zDz | zJn | zPj | zX | zZn
deriving DecidableEq, Repr

structure Ml8CommandCmd where
  targetUid : UID
  targetKind : OperatorTargetKind
  code : Ml8CommandCode

inductive CommandPriority
  | emergency | safety | normal | background
deriving DecidableEq, Repr

/-- The place of a priority's bucket. -/
def CommandPriority.index : CommandPriority → Nat
  | .emergency => 0
  | .safety => 1
  | .normal => 2
  | .background => 3

structure CommandMeta where
  seqId : BitVec 32 := 0
  priority : CommandPriority := .normal
  playerId : String := ""
  dispatchAreaUid : UID := {}
  timestampUs : Nat := 0
deriving DecidableEq

inductive Command
  | setSwitchPosition (cmd : SetSwitchPositionCmd)
  | setSignalAspect (cmd : SetSignalAspectCmd)
  | setDerailerPosition (cmd : SetDerailerPositionCmd)
  | setBlockSection (cmd : SetBlockSectionCmd)
  | requestRoute (cmd : RequestRouteCmd)
  | cancelRoute (cmd : CancelRouteCmd)
  | acknowledgeAlarm (cmd : AcknowledgeAlarmCmd)
  | setBlockDirection (cmd : SetBlockDirectionCmd)
  | initAxleCounterReset (cmd : InitAxleCounterResetCmd)
  | resetAxleCounter (cmd : ResetAxleCounterCmd)
  | operatorCommand (cmd : OperatorCommandCmd)
  | ml8Command (cmd : Ml8CommandCmd)

structure EnvelopedCommand where
  cmdMeta : CommandMeta
  payload : Command

/-! ## The command queue -/

/-- First in, first out within each priority. -/
structure PriorityCommandQueue (α : Type) where
  buckets : CommandPriority → List α := fun _ => []

namespace PriorityCommandQueue

variable {α : Type} (queue : PriorityCommandQueue α)

def push (item : α) (priority : CommandPriority) : PriorityCommandQueue α where
  buckets p := if p = priority then queue.buckets priority ++ [item] else queue.buckets p

def popFrom : List CommandPriority → Option (α × PriorityCommandQueue α)
  | [] => none
  | p :: ps =>
    match queue.buckets p with
    | item :: rest => some (item, { buckets := fun q => if q = p then rest else queue.buckets q })
    | [] => popFrom ps

def priorities : List CommandPriority := [.emergency, .safety, .normal, .background]

/-- The first item of the highest priority there is. -/
def tryPop : Option (α × PriorityCommandQueue α) := queue.popFrom priorities

def items : List α := priorities.flatMap queue.buckets

variable {queue}

theorem flatMap_of_not_mem {ps : List CommandPriority} {p : CommandPriority} (h : p ∉ ps) (bucket : List α) :
    ps.flatMap (fun q => if q = p then bucket else queue.buckets q) = ps.flatMap queue.buckets := by
  refine List.flatMap_congr fun q hq => if_neg ?_
  rintro rfl
  exact h hq

theorem perm_push (item : α) {priority : CommandPriority} {ps : List CommandPriority} (hNodup : ps.Nodup)
    (hIn : priority ∈ ps) :
    (ps.flatMap (queue.push item priority).buckets).Perm (item :: ps.flatMap queue.buckets) := by
  induction ps with
  | nil => cases hIn
  | cons p ps ih =>
    obtain ⟨hFresh, hRest⟩ := List.nodup_cons.mp hNodup
    rw [List.flatMap_cons, List.flatMap_cons]
    by_cases hHere : p = priority
    · subst hHere
      have hBucket : (queue.push item p).buckets p = queue.buckets p ++ [item] := if_pos rfl
      have hOthers : ps.flatMap (queue.push item p).buckets = ps.flatMap queue.buckets := flatMap_of_not_mem hFresh _
      rw [hBucket, hOthers, List.append_assoc]
      exact List.perm_middle
    · have hBucket : (queue.push item priority).buckets p = queue.buckets p := if_neg hHere
      have hLater := ih hRest ((List.mem_cons.mp hIn).resolve_left (Ne.symm hHere))
      rw [hBucket]
      exact (List.Perm.append_left _ hLater).trans List.perm_middle

theorem perm_items_push (item : α) (priority : CommandPriority) :
    (queue.push item priority).items.Perm (item :: queue.items) :=
  perm_push item (by decide) (by cases priority <;> decide)

/-- What is taken is the head of the first bucket that is not empty, and the other buckets stay as they are. -/
theorem exists_of_popFrom {ps : List CommandPriority} {item : α} {queue' : PriorityCommandQueue α}
    (h : queue.popFrom ps = some (item, queue')) :
    ∃ before p after, ps = before ++ p :: after ∧ (∀ q ∈ before, queue.buckets q = []) ∧
      queue.buckets p = item :: queue'.buckets p ∧ ∀ q, q ≠ p → queue'.buckets q = queue.buckets q := by
  induction ps with
  | nil => cases h
  | cons p ps ih =>
    cases hBucket : queue.buckets p with
    | cons first rest =>
      simp only [popFrom, hBucket, Option.some.injEq, Prod.mk.injEq] at h
      obtain ⟨rfl, rfl⟩ := h
      refine ⟨[], p, ps, rfl, ?_, ?_, fun q hq => if_neg hq⟩
      · intro q hq
        cases hq
      · rw [hBucket]
        exact congrArg _ (if_pos rfl).symm
    | nil =>
      simp only [popFrom, hBucket] at h
      obtain ⟨before, q, after, rfl, hEmpty, hHead, hSame⟩ := ih h
      exact ⟨p :: before, q, after, rfl, List.forall_mem_cons.mpr ⟨hBucket, hEmpty⟩, hHead, hSame⟩

theorem flatMap_of_popFrom_none {ps : List CommandPriority} (h : queue.popFrom ps = none) :
    ps.flatMap queue.buckets = [] := by
  induction ps with
  | nil => rfl
  | cons p ps ih =>
    cases hBucket : queue.buckets p with
    | cons first rest =>
      simp only [popFrom, hBucket] at h
      cases h
    | nil =>
      simp only [popFrom, hBucket] at h
      rw [List.flatMap_cons, hBucket, ih h, List.append_nil]

/-- The items leave in the order they are listed in. -/
theorem items_tryPop {item : α} {queue' : PriorityCommandQueue α} (h : queue.tryPop = some (item, queue')) :
    queue.items = item :: queue'.items := by
  obtain ⟨before, p, after, hSplit, hEmpty, hHead, hSame⟩ := exists_of_popFrom h
  have hNodup : (before ++ p :: after).Nodup := hSplit ▸ (by decide)
  obtain ⟨-, hAfter, hApart⟩ := List.nodup_append.mp hNodup
  have hBefore : ∀ q ∈ before, queue'.buckets q = queue.buckets q :=
    fun q hq => hSame q (hApart q hq p List.mem_cons_self)
  have hRest : ∀ q ∈ after, queue'.buckets q = queue.buckets q := by
    rintro q hq
    refine hSame q ?_
    rintro rfl
    exact (List.nodup_cons.mp hAfter).1 hq
  have hNone : before.flatMap queue.buckets = [] := List.flatMap_eq_nil_iff.mpr hEmpty
  rw [items, items, hSplit, List.flatMap_append, List.flatMap_append, List.flatMap_cons, List.flatMap_cons,
    List.flatMap_congr hBefore, List.flatMap_congr hRest, hNone, hHead]
  rfl

theorem items_of_tryPop_none (h : queue.tryPop = none) : queue.items = [] := flatMap_of_popFrom_none h

theorem perm_items_tryPop {item : α} {queue' : PriorityCommandQueue α} (h : queue.tryPop = some (item, queue')) :
    queue.items.Perm (item :: queue'.items) := .of_eq (items_tryPop h)

end PriorityCommandQueue

end Symulator.Engine
