import ClientEngagement.Lib.Dict
import ClientEngagement.Lib.KeyOrder

/-!
# The advisor allocation

Model of `risk/fa_allocation.py`: `ownersFromSource` (`owners_from_source`), `allocateAdvisors`
(`allocate_advisors`) and `lendOverflow` (`_lend_overflow`), loop by loop. Money is exact (`ℚ`), a
Python `dict` is a `Dict` in insertion order, the set of demoted clients a `Finset`. The counters
`money`, `heads` and `counts`, which the source fills for every roster member before it reads them,
are total functions. Reading the owner of a client that has none (a `KeyError` in the source) leaves
the loop state as it is; `allocateAdvisors` never does so, since every client is owned by then.
-/

namespace ClientEngagement.Risk

abbrev ClientId := ℤ
abbrev FaId := String

/-- One advisor of the roster (`config.py`, `FaRecord`). -/
structure FaRecord where
  faId : FaId
  name : String
  email : String
  dailyCapacity : ℕ
deriving DecidableEq, Repr

/-- A roster as `Settings.fa_records` parses it: repeats of an id already seen are dropped. -/
structure Roster where
  records : List FaRecord
  nodup : (records.map FaRecord.faId).Nodup

/-- One client's weight in the allocation. -/
structure ClientLoad where
  clientId : ClientId
  fundAtRisk : ℚ
  inCallQueue : Bool := false
deriving DecidableEq, Repr

/-- Who owns, covers and drops off the call queue tonight. -/
structure AdvisorAllocation where
  owner : Dict ClientId FaId := .empty
  covering : Dict ClientId FaId := .empty
  demoted : Finset ClientId := ∅

/-- Who is calling this client tonight (`advisor_for`). -/
def AdvisorAllocation.advisorFor (a : AdvisorAllocation) (clientId : ClientId) : Option FaId :=
  (a.covering.get? clientId).or (a.owner.get? clientId)

/-- The advisors the source records name, by normalized email (`owners_from_source`). The string
    normalization `_normalized_email` is a parameter. -/
def ownersFromSource (normalizedEmail : String → String) (roster : List FaRecord)
    (sourceEmails : Dict ClientId String) : Dict ClientId FaId :=
  let faIdByEmail := Dict.ofList (roster.map fun record =>
    (normalizedEmail record.email, record.faId))
  .ofList (sourceEmails.items.filterMap fun (clientId, email) =>
    (faIdByEmail.get? (normalizedEmail email)).map fun faId => (clientId, faId))

/-- `{record.fa_id: record for record in roster}`. -/
def rostered (roster : List FaRecord) : Dict FaId FaRecord :=
  .ofList (roster.map fun record => (record.faId, record))

/-- `rostered[fa_id].daily_capacity`. -/
def capacity (roster : List FaRecord) (faId : FaId) : ℕ :=
  (((rostered roster).get? faId).map FaRecord.dailyCapacity).getD 0

/-! ## Ownership -/

/-- `source_owners.get(client_id, current_owners.get(client_id))`, if it is on the roster. -/
def existingOwner (roster : List FaRecord) (currentOwners sourceOwners : Dict ClientId FaId)
    (clientId : ClientId) : Option FaId :=
  ((sourceOwners.get? clientId).or (currentOwners.get? clientId)).filter fun faId =>
    (rostered roster).contains faId

/-- The clients that keep an owner, and those that need one. -/
structure Placement where
  owner : Dict ClientId FaId := .empty
  unassigned : List ClientLoad := []

def place (roster : List FaRecord) (currentOwners sourceOwners : Dict ClientId FaId)
    (p : Placement) (client : ClientLoad) : Placement :=
  match existingOwner roster currentOwners sourceOwners client.clientId with
  | some existing => { p with owner := p.owner.set client.clientId existing }
  | none => { p with unassigned := p.unassigned ++ [client] }

/-- The money at risk and the number of clients each advisor carries. -/
structure Carried where
  money : FaId → ℚ := fun _ => 0
  heads : FaId → ℕ := fun _ => 0

def Carried.add (w : Carried) (faId : FaId) (fundAtRisk : ℚ) : Carried where
  money := Function.update w.money faId (w.money faId + fundAtRisk)
  heads := Function.update w.heads faId (w.heads faId + 1)

/-- The weights of the owners already placed, `by_id[client_id].fund_at_risk` for each. -/
def carriedBy (clients : List ClientLoad) (owner : Dict ClientId FaId) : Carried :=
  let byId := Dict.ofList (clients.map fun client => (client.clientId, client))
  owner.items.foldl (fun w (clientId, faId) =>
    w.add faId (((byId.get? clientId).map ClientLoad.fundAtRisk).getD 0)) {}

/-- The key that makes an advisor the least loaded. -/
def loadKey (w : Carried) (faId : FaId) : ℚ ×ₗ ℕ ×ₗ FaId :=
  toLex (w.money faId, toLex (w.heads faId, faId))

/-- Biggest first, `client_id` breaking ties. -/
def heaviestFirst (client : ClientLoad) : ℚ ×ₗ ClientId := toLex (-client.fundAtRisk, client.clientId)

/-- Smallest first, `client_id` breaking ties. -/
def lightestFirst (client : ClientLoad) : ℚ ×ₗ ClientId := toLex (client.fundAtRisk, client.clientId)

/-- One unassigned client goes to the least loaded advisor. -/
def assignOne (roster : List FaRecord) (s : Dict ClientId FaId × Carried) (client : ClientLoad) :
    Dict ClientId FaId × Carried :=
  match minBy (loadKey s.2) (rostered roster).keys with
  | some faId => (s.1.set client.clientId faId, s.2.add faId client.fundAtRisk)
  | none => s

/-- The permanent owner of every client. -/
def ownersFor (roster : List FaRecord) (clients : List ClientLoad)
    (currentOwners sourceOwners : Dict ClientId FaId) : Dict ClientId FaId :=
  let p := clients.foldl (place roster currentOwners sourceOwners) {}
  ((sortBy heaviestFirst p.unassigned).foldl (assignOne roster)
    (p.owner, carriedBy clients p.owner)).1

/-! ## Tonight's overflow -/

/-- The call queue of each owner, in client order (`queue_by_fa`). -/
def queueByFa (clients : List ClientLoad) (owner : Dict ClientId FaId) :
    Dict FaId (List ClientLoad) :=
  clients.foldl (fun queues client =>
    if client.inCallQueue then
      match owner.get? client.clientId with
      | some faId => queues.modify faId [] (· ++ [client])
      | none => queues
    else queues) .empty

/-- What an advisor over capacity lends: everything but the biggest `capacity` clients. -/
def excess (roster : List FaRecord) (faId : FaId) (rows : List ClientLoad) : List ClientLoad :=
  if rows.length ≤ capacity roster faId then []
  else (sortBy lightestFirst rows).take (rows.length - capacity roster faId)

/-- The state of the lending loop. -/
structure Tonight where
  counts : FaId → ℕ
  covering : Dict ClientId FaId := .empty
  demoted : Finset ClientId := ∅

/-- One overflow client goes to the advisor with room and the shortest queue, or is demoted. -/
def lendOne (roster : List FaRecord) (owner : Dict ClientId FaId) (s : Tonight)
    (client : ClientLoad) : Tonight :=
  match owner.get? client.clientId with
  | none => s
  | some home =>
    let withRoom := (rostered roster).keys.filter fun faId =>
      faId ≠ home ∧ s.counts faId < capacity roster faId
    match minBy (fun faId => toLex (s.counts faId, faId)) withRoom with
    | none => { s with demoted := insert client.clientId s.demoted }
    | some target =>
      let lent := Function.update s.counts target (s.counts target + 1)
      { s with
        counts := Function.update lent home (lent home - 1)
        covering := s.covering.set client.clientId target }

/-- The clients over capacity, in the order of the queue dictionary (`overflow`). -/
def overflow (roster : List FaRecord) (clients : List ClientLoad) (owner : Dict ClientId FaId) :
    List ClientLoad :=
  (queueByFa clients owner).items.flatMap fun (faId, rows) => excess roster faId rows

/-- Moves tonight's call-queue overflow to advisors with room (`_lend_overflow`). -/
def lendOverflow (roster : List FaRecord) (clients : List ClientLoad) (owner : Dict ClientId FaId) :
    Tonight :=
  let counts := fun faId => ((queueByFa clients owner).getD faId []).length
  (sortBy heaviestFirst (overflow roster clients owner)).foldl (lendOne roster owner)
    { counts := counts }

/-- Assigns every client an owner and lends out tonight's overflow (`allocate_advisors`). -/
def allocateAdvisors (roster : List FaRecord) (clients : List ClientLoad)
    (currentOwners : Dict ClientId FaId) (sourceOwners : Dict ClientId FaId := .empty) :
    AdvisorAllocation :=
  if roster = [] ∨ clients = [] then {}
  else
    let owner := ownersFor roster clients currentOwners sourceOwners
    let tonight := lendOverflow roster clients owner
    { owner := owner, covering := tonight.covering, demoted := tonight.demoted }

end ClientEngagement.Risk
