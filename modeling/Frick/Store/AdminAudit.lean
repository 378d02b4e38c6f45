import Mathlib
import Frick.Framework.HashChain
import Frick.Framework.SelfDelimiting
import Frick.Store.Sqlite

/-!
# The admin audit log

`AdminAuditStore`: an append-only table of admin actions in which every row's `entry_hash` commits
to the hash of the row before it and to the canonical JSON of its own columns. `record` appends a
row, `verifyChain` reports the first row that does not fit.

Rows are kept as the table keeps them, so that what an operator with SQL access can do to a column
can be said: every column but the id holds an arbitrary SQL value, and the readers take its text.
The table is global and `record` holds a lock over its read and its insert, so calls come one after
the other.

**SHA-256.** `Sha256` is a digest that is assumed to be injective and not empty.

**As a hash chain.** `AuditRow.link` reads a row as a link. The chain commits: the canonical JSON
can be read back field by field, and its opening brace separates it from the hash before it.
-/

namespace Frick.Store

open Framework List

inductive AdminAuditOutcome where
  | allow | deny | error
  deriving Repr

def AdminAuditOutcome.asStr : AdminAuditOutcome → String
  | .allow => "allow"
  | .deny => "deny"
  | .error => "error"

structure AdminAuditInput where
  adminTokenFingerprint : String
  action : String
  target : Option String
  outcome : AdminAuditOutcome
  detail : Option String
  deriving Repr

/-- `AdminAuditRow`, a row as the store's callers see it. -/
structure AdminAuditRow where
  id : Int
  occurredAt : String
  adminTokenFingerprint : String
  action : String
  target : Option String
  outcome : AdminAuditOutcome
  detail : Option String
  previousHash : Option String
  entryHash : Option String
  deriving Repr

structure AdminAuditChainVerification where
  valid : Bool
  brokenAt : Option Int
  deriving Repr

/-! ## The table -/

/-- The columns of `admin_audit_log` beside its id. -/
inductive AuditColumn where
  | occurredAt | adminTokenFingerprint | action | target | outcome | detail
  | previousHash | entryHash
  deriving Repr, DecidableEq

/-- A stored row of `admin_audit_log`. -/
structure AuditRow where
  id : Int
  columns : AuditColumn → SqlValue

def AuditRow.text (row : AuditRow) (column : AuditColumn) : Option String :=
  (row.columns column).asStr

/-- `admin_audit_log` in the order of its ids; `lastId` is where `AUTOINCREMENT` stands. -/
structure AuditLog where
  rows : List AuditRow
  lastId : Int
  sorted : rows.Pairwise fun row later => row.id < later.id
  below : ∀ row ∈ rows, row.id ≤ lastId

namespace AuditLog

/-- The table as its migration creates it. -/
def empty : AuditLog := ⟨[], 0, Pairwise.nil, fun _ h => nomatch h⟩

/-- An insert: the row gets the next id, which is above every other. -/
def insert (log : AuditLog) (columns : AuditColumn → SqlValue) : AuditLog where
  rows := log.rows ++ [⟨log.lastId + 1, columns⟩]
  lastId := log.lastId + 1
  sorted := by
    refine pairwise_append.mpr ⟨log.sorted, pairwise_singleton _ _, ?_⟩
    intro row hrow later hlater
    have hbelow := log.below row hrow
    rw [mem_singleton.mp hlater]
    show row.id < log.lastId + 1
    omega
  below := by
    intro row hrow
    rcases mem_append.mp hrow with hold | hnew
    · have hbelow := log.below row hold
      omega
    · rw [mem_singleton.mp hnew]

end AuditLog

/-! ## Hashing -/

/-- SHA-256, as far as the chain rests on it. -/
structure Sha256 where
  digest : ByteArray → Bytes
  injective : Function.Injective digest
  digest_ne_nil : ∀ bytes, digest bytes ≠ []

/-- Bytes as their own digest behind a mark, for evaluating the model. -/
def Sha256.plain : Sha256 where
  digest bytes := 0 :: bytes.data.toList
  injective _ _ h := ByteArray.ext (Array.toList_inj.mp (List.cons.inj h).2)
  digest_ne_nil _ h := nomatch h

def jsonStr (value : String) : String := String.ofList (jsonString value.toList)

def jsonOpt (value : Option String) : String := value.elim "null" jsonStr

/-- `canonical_json`: fixed key order, `null` for a missing target or detail. -/
def canonicalJson (occurredAt adminTokenFingerprint action : String) (target : Option String)
    (outcome : String) (detail : Option String) : String :=
  "\x7b\"occurred_at\":" ++ jsonStr occurredAt ++
  ",\"admin_token_fingerprint\":" ++ jsonStr adminTokenFingerprint ++
  ",\"action\":" ++ jsonStr action ++
  ",\"target\":" ++ jsonOpt target ++
  ",\"outcome\":" ++ jsonStr outcome ++
  ",\"detail\":" ++ jsonOpt detail ++ "\x7d"

example : canonicalJson "2023-11-14T22:13:20.123Z" "abc123def456" "tenants.create" (some "t1")
    "allow" none =
    "\x7b\"occurred_at\":\"2023-11-14T22:13:20.123Z\"," ++
    "\"admin_token_fingerprint\":\"abc123def456\",\"action\":\"tenants.create\"," ++
    "\"target\":\"t1\",\"outcome\":\"allow\",\"detail\":null\x7d" := by
  decide +kernel

def computeEntryHash (sha : Sha256) (previousHash canonical : String) : String :=
  String.ofList (hexEncode (sha.digest (previousHash.toByteArray ++ canonical.toByteArray)))

def constantTimeEquals (a b : String) : Bool := a.toByteArray = b.toByteArray

/-! ## The store -/

namespace AuditLog

variable (sha : Sha256)

/-- The row that `record` inserts, behind the hash `previousHash`. -/
def newColumns (previousHash : String) (input : AdminAuditInput) (nowMs : Int) :
    AuditColumn → SqlValue
  | .occurredAt => .text (isoFromEpochMs nowMs)
  | .adminTokenFingerprint => .text input.adminTokenFingerprint
  | .action => .text input.action
  | .target => input.target.elim .null .text
  | .outcome => .text input.outcome.asStr
  | .detail => input.detail.elim .null .text
  | .previousHash => .text previousHash
  | .entryHash => .text (computeEntryHash sha previousHash (canonicalJson (isoFromEpochMs nowMs)
      input.adminTokenFingerprint input.action input.target input.outcome.asStr input.detail))

/-- `SELECT entry_hash … ORDER BY id DESC LIMIT 1`, with the text of the first row's predecessor. -/
def latestHash (log : AuditLog) : String := (log.rows.getLast?.bind (·.text .entryHash)).getD ""

def record (log : AuditLog) (input : AdminAuditInput) (nowMs : Int) : AuditLog × AdminAuditRow :=
  let previousHash := log.latestHash
  let canonical := canonicalJson (isoFromEpochMs nowMs) input.adminTokenFingerprint input.action
    input.target input.outcome.asStr input.detail
  let entryHash := computeEntryHash sha previousHash canonical
  (log.insert (newColumns sha previousHash input nowMs),
    ⟨log.lastId + 1, isoFromEpochMs nowMs, input.adminTokenFingerprint, input.action, input.target,
      input.outcome, input.detail, some previousHash, some entryHash⟩)

/-- The loop of `verify_chain` over the rows that are left. -/
def verifyRows : String → Bool → List AuditRow → AdminAuditChainVerification
  | _, _, [] => ⟨true, none⟩
  | previousHash, sawHashed, row :: rows =>
    match row.text .entryHash with
    -- a row from before the chain
    | none => verifyRows previousHash sawHashed rows
    | some storedEntryHash =>
      let rowPrevious := (row.text .previousHash).getD ""
      let expectedPrevious := if sawHashed then previousHash else rowPrevious
      if sawHashed && !constantTimeEquals rowPrevious previousHash then ⟨false, some row.id⟩
      else
        let canonical := canonicalJson ((row.text .occurredAt).getD "")
          ((row.text .adminTokenFingerprint).getD "") ((row.text .action).getD "")
          (row.text .target) ((row.text .outcome).getD "") (row.text .detail)
        let derived := computeEntryHash sha expectedPrevious canonical
        if !constantTimeEquals derived storedEntryHash then ⟨false, some row.id⟩
        else verifyRows storedEntryHash true rows

def verifyChain (log : AuditLog) : AdminAuditChainVerification := verifyRows sha "" false log.rows

/-- Any number of `record` calls, each with its clock. -/
def recordAll (log : AuditLog) (calls : List (AdminAuditInput × Int)) : AuditLog :=
  calls.foldl (fun log call => (log.record sha call.1 call.2).1) log

end AuditLog

/-! ## As a hash chain -/

/-- The texts that a row's hash covers. -/
@[ext]
structure AuditBody where
  occurredAt : String
  adminTokenFingerprint : String
  action : String
  target : Option String
  outcome : String
  detail : Option String

def AuditBody.canonical (body : AuditBody) : String :=
  canonicalJson body.occurredAt body.adminTokenFingerprint body.action body.target body.outcome
    body.detail

/-- What `verify_chain` reads of a row. -/
def AuditRow.link (row : AuditRow) : Link Int AuditBody String where
  label := row.id
  prev := (row.text .previousHash).getD ""
  body := ⟨(row.text .occurredAt).getD "", (row.text .adminTokenFingerprint).getD "",
    (row.text .action).getD "", row.text .target, (row.text .outcome).getD "", row.text .detail⟩
  hash := row.text .entryHash

open AuditRow (link)

/-- The hash of a body behind another hash. -/
def auditCommit (sha : Sha256) (previousHash : String) (body : AuditBody) : String :=
  computeEntryHash sha previousHash body.canonical

/-- The characters of a canonical JSON, from its fields as one tuple. -/
private def canonicalChars (fields : List Char × List Char × List Char × Option (List Char) ×
    List Char × Option (List Char)) : List Char :=
  "\x7b\"occurred_at\":".toList ++ (jsonString fields.1 ++
  (",\"admin_token_fingerprint\":".toList ++ (jsonString fields.2.1 ++
  (",\"action\":".toList ++ (jsonString fields.2.2.1 ++
  (",\"target\":".toList ++ (jsonOption fields.2.2.2.1 ++
  (",\"outcome\":".toList ++ (jsonString fields.2.2.2.2.1 ++
  (",\"detail\":".toList ++ (jsonOption fields.2.2.2.2.2 ++ "\x7d".toList)))))))))))

private lemma canonicalChars_selfDelimiting : SelfDelimiting canonicalChars := by
  have hstring := jsonString_selfDelimiting
  have hoption := jsonOption_selfDelimiting
  exact (hstring.append ((hstring.append ((hstring.append ((hoption.append ((hstring.append
    ((hoption.before _).after _)).after _)).after _)).after _)).after _)).after _

lemma toList_jsonStr (value : String) : (jsonStr value).toList = jsonString value.toList :=
  String.toList_ofList

lemma toList_jsonOpt (value : Option String) :
    (jsonOpt value).toList = jsonOption (value.map String.toList) := by
  cases value with
  | none => rfl
  | some value => exact toList_jsonStr value

private lemma toList_canonical (body : AuditBody) :
    body.canonical.toList = canonicalChars (body.occurredAt.toList,
      body.adminTokenFingerprint.toList, body.action.toList, body.target.map String.toList,
      body.outcome.toList, body.detail.map String.toList) := by
  unfold AuditBody.canonical canonicalJson canonicalChars
  -- the keys stay folded: simp would spell every character out
  generalize "\x7b\"occurred_at\":" = k1
  generalize ",\"admin_token_fingerprint\":" = k2
  generalize ",\"action\":" = k3
  generalize ",\"target\":" = k4
  generalize ",\"outcome\":" = k5
  generalize ",\"detail\":" = k6
  generalize "\x7d" = k7
  simp [toList_jsonStr, toList_jsonOpt]

lemma canonical_injective : Function.Injective AuditBody.canonical := by
  intro a b h
  have hchars := congrArg String.toList h
  rw [toList_canonical, toList_canonical] at hchars
  have hflds := canonicalChars_selfDelimiting.injective hchars
  have hoption := Option.map_injective fun _ _ => String.toList_injective
  simp only [Prod.mk.injEq] at hflds
  obtain ⟨h1, h2, h3, h4, h5, h6⟩ := hflds
  cases a
  cases b
  rw [AuditBody.mk.injEq]
  exact ⟨String.toList_injective h1, String.toList_injective h2, String.toList_injective h3,
    hoption h4, String.toList_injective h5, hoption h6⟩

lemma toList_canonical_cons (body : AuditBody) :
    ∃ rest, body.canonical.toList = '\x7b' :: rest := by
  rw [toList_canonical]
  exact ⟨_, rfl⟩

variable {sha : Sha256}

lemma append_eq_of_computeEntryHash_eq {prev previousHash' canonical canonical' : String}
    (h : computeEntryHash sha prev canonical = computeEntryHash sha previousHash' canonical') :
    prev ++ canonical = previousHash' ++ canonical' := by
  have hbytes := sha.injective (hexEncode_injective (String.ofList_injective h))
  rw [← String.toByteArray_append, ← String.toByteArray_append] at hbytes
  exact String.toByteArray_inj.mp hbytes

lemma brace_notMem_of_issued {prev : String}
    (h : Link.Issued (auditCommit sha) "" prev) : '\x7b' ∉ prev.toList := by
  rcases h with rfl | ⟨before, body, rfl⟩
  · decide
  · rw [auditCommit, computeEntryHash, String.toList_ofList]
    exact notMem_hexEncode (by decide) _

lemma commits_auditCommit : Link.Commits (auditCommit sha) "" where
  genesis_ne previousHash body h := by
    have hchars := congrArg String.toList h
    rw [auditCommit, computeEntryHash, String.toList_ofList] at hchars
    exact sha.digest_ne_nil _ (hexEncode_injective hchars)
  prev_inj p q body h :=
    (String.append_left_inj _).mp (append_eq_of_computeEntryHash_eq h)
  inj p q a b hp hq h := by
    have hchars := congrArg String.toList (append_eq_of_computeEntryHash_eq h)
    obtain ⟨rest, ha⟩ := toList_canonical_cons a
    obtain ⟨rest', hb⟩ := toList_canonical_cons b
    rw [String.toList_append, String.toList_append, ha, hb] at hchars
    obtain ⟨hprev, hrest⟩ := append_cons_inj_of_notMem (brace_notMem_of_issued hp)
      (brace_notMem_of_issued hq) hchars
    refine ⟨String.toList_injective hprev, canonical_injective (String.toList_injective ?_)⟩
    rw [ha, hb, hrest]

namespace AuditLog

/-! ### The checker -/

lemma constantTimeEquals_eq (a b : String) : constantTimeEquals a b = decide (a = b) := by
  rw [constantTimeEquals]
  exact decide_eq_decide.mpr String.toByteArray_inj

lemma verifyRows_cons_some (last : Option String) {row : AuditRow} {rows : List AuditRow}
    {hash : String} (hhash : row.text .entryHash = some hash) :
    verifyRows sha (last.getD "") last.isSome (row :: rows) =
      if row.link.prev = last.getD row.link.prev ∧
          auditCommit sha row.link.prev row.link.body = hash then verifyRows sha hash true rows
      else ⟨false, some row.id⟩ := by
  rw [verifyRows, hhash]
  cases last with
  | none =>
    show (if (!constantTimeEquals (auditCommit sha row.link.prev row.link.body) hash)
      then _ else _) = _
    simp [constantTimeEquals_eq]
  | some prev =>
    show (if (!constantTimeEquals row.link.prev prev) then _ else
      if (!constantTimeEquals (auditCommit sha prev row.link.body) hash)
        then _ else _) = _
    simp only [constantTimeEquals_eq, Bool.not_eq_true', decide_eq_false_iff_not, ite_not,
      Option.getD_some]
    by_cases hprev : row.link.prev = prev
    · rw [if_pos hprev, hprev]
      simp
    · rw [if_neg hprev, if_neg fun h => hprev h.1]

lemma verifyRows_eq (last : Option String) (rows : List AuditRow) :
    verifyRows sha (last.getD "") last.isSome rows =
      (Link.firstBreak (auditCommit sha) last (rows.map link)).elim ⟨true, none⟩
        fun id => ⟨false, some id⟩ := by
  induction rows generalizing last with
  | nil => rfl
  | cons row _ ih =>
    rw [map_cons]
    cases hhash : row.text .entryHash with
    | none => rw [Link.firstBreak_cons_none hhash, ← ih, verifyRows, hhash]
    | some hash =>
      rw [Link.firstBreak_cons_some hhash, verifyRows_cons_some last hhash]
      split_ifs with hfits
      · exact ih (some hash)
      · rfl

lemma verifyChain_eq (log : AuditLog) :
    log.verifyChain sha =
      (Link.firstBreak (auditCommit sha) none (log.rows.map link)).elim ⟨true, none⟩
        fun id => ⟨false, some id⟩ :=
  verifyRows_eq none log.rows

lemma valid_verifyChain_eq_false_iff (log : AuditLog) :
    (log.verifyChain sha).valid = false ↔
      Link.firstBreak (auditCommit sha) none (log.rows.map link) ≠ none := by
  rw [verifyChain_eq]
  cases Link.firstBreak (auditCommit sha) none (log.rows.map link) with
  | none => exact iff_of_false (by simp) (fun h => h rfl)
  | some => exact iff_of_true rfl (by simp)

/-! ### The writer -/

def newBody (call : AdminAuditInput × Int) : AuditBody :=
  ⟨isoFromEpochMs call.2, call.1.adminTokenFingerprint, call.1.action, call.1.target,
    call.1.outcome.asStr, call.1.detail⟩

/-- The rows of a run of `record` behind an id and a hash. -/
def newRows (sha : Sha256) : Int → String → List (AdminAuditInput × Int) → List AuditRow
  | _, _, [] => []
  | id, previousHash, call :: calls =>
    ⟨id + 1, newColumns sha previousHash call.1 call.2⟩ ::
      newRows sha (id + 1) (auditCommit sha previousHash (newBody call)) calls

/-- The labelled bodies of a run of `record` behind an id. -/
def newEntries : Int → List (AdminAuditInput × Int) → List (Int × AuditBody)
  | _, [] => []
  | id, call :: calls => (id + 1, newBody call) :: newEntries (id + 1) calls

lemma asStr_elim_text (o : Option String) : (o.elim SqlValue.null SqlValue.text).asStr = o := by
  cases o <;> rfl

lemma link_newColumns (id : Int) (prev : String) (call : AdminAuditInput × Int) :
    link ⟨id, newColumns sha prev call.1 call.2⟩ =
      ⟨id, prev, newBody call, some (auditCommit sha prev (newBody call))⟩ := by
  have htgt := asStr_elim_text call.1.target
  have hdetail := asStr_elim_text call.1.detail
  simp only [link, AuditRow.text, newColumns, htgt, hdetail]
  rfl

lemma latestHash_insert (log : AuditLog) (call : AdminAuditInput × Int) (prev : String) :
    (log.insert (newColumns sha prev call.1 call.2)).latestHash =
      auditCommit sha prev (newBody call) := by
  rw [latestHash, insert, List.getLast?_concat]
  rfl

lemma rows_recordAll (log : AuditLog) (calls : List (AdminAuditInput × Int)) :
    (log.recordAll sha calls).rows = log.rows ++ newRows sha log.lastId log.latestHash calls := by
  induction calls generalizing log with
  | nil => exact (append_nil _).symm
  | cons call calls ih =>
    show ((log.insert (newColumns sha log.latestHash call.1 call.2)).recordAll sha calls).rows = _
    rw [ih, latestHash_insert]
    show (log.rows ++ [_]) ++ _ = log.rows ++ (_ :: _)
    rw [append_assoc]
    rfl

lemma map_link_newRows (id : Int) (prev : String) (calls : List (AdminAuditInput × Int)) :
    (newRows sha id prev calls).map link =
      Link.chain (auditCommit sha) prev (newEntries id calls) := by
  induction calls generalizing id prev with
  | nil => rfl
  | cons _ _ ih =>
    rw [newRows, map_cons, link_newColumns, ih]
    rfl

end AuditLog

end Frick.Store
