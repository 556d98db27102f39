import Mathlib.Data.Nat.Bitwise
import Mathlib.Logic.Function.Basic
import Paryty.Lib.RustString

/-!
# The database protocol inspector

`agent/src/ebpf/db_inspector.rs`: reads PostgreSQL, MySQL and Redis messages out of captured
payloads, remembers a request under its process and port until a response is seen there, and makes
one event of both.

* `parsePostgresql`, `parseMysql` and `parseRedis` read one payload. What a branch of the source
  does to the map of pending requests is an `Action`, which `DbInspector.perform` carries out.
* `DbInspector.inspect` is the entry point.

Instants are in nanoseconds.
-/

namespace Paryty.Agent.Db

open Lib.RustString

/-! ## Data -/

/-- `MAX_QUERY_LEN`. -/
def maxQueryLen : ℕ := 1024

/-- `PG_PORT`. -/
def pgPort : UInt16 := 5432

/-- `MYSQL_PORT`. -/
def mysqlPort : UInt16 := 3306

/-- `REDIS_PORT`. -/
def redisPort : UInt16 := 6379

/-- `REDIS_SENTINEL_PORT`. -/
def redisSentinelPort : UInt16 := 26379

/-- `DbProtocol`. -/
inductive DbProtocol
  | unknown
  | postgreSQL
  | mySQL
  | redis
  | encrypted
deriving DecidableEq

/-- `DbProtocol::as_str`. -/
def DbProtocol.asStr : DbProtocol → String
  | .unknown => "unknown"
  | .postgreSQL => "postgresql"
  | .mySQL => "mysql"
  | .redis => "redis"
  | .encrypted => "encrypted"

/-- `DbQueryEvent`. The latency is the time elapsed, before its conversion to an f64 in
milliseconds. -/
structure DbQueryEvent where
  protocol : String
  query : String := ""
  queryType : String := ""
  tableName : String := ""
  database : String := ""
  latency : ℕ := 0
  rowCount : ℕ := 0
  errorMessage : String := ""
  sourceIP : String
  destinationIP : String
  destinationPort : UInt16
  pid : UInt32
  processName : String
  isEncrypted : Bool := false
deriving DecidableEq

/-- `PendingRequest`. -/
structure PendingRequest where
  sentAt : ℕ
  protocol : DbProtocol
  query : String
  queryType : String
  tableName : String
deriving DecidableEq

/-- `InspectorStats`. -/
structure InspectorStats where
  totalEvents : ℕ := 0
  pgQueries : ℕ := 0
  mysqlQueries : ℕ := 0
  redisCommands : ℕ := 0
  encryptedEvents : ℕ := 0
  unknownEvents : ℕ := 0
  parseErrors : ℕ := 0
deriving DecidableEq

/-- The arguments of `inspect`. -/
structure Capture where
  payload : List UInt8
  port : UInt16
  pid : UInt32
  processName : String
  srcIP : UInt32
  dstIP : UInt32
deriving DecidableEq

/-- What a payload makes the inspector do. -/
inductive Action
  /-- Nothing. -/
  | pass
  /-- It remembers a request, in place of the one that is pending. -/
  | request (protocol : DbProtocol) (query queryType tableName : String)
  /-- It takes the pending request and emits an event, if there is no such request a blank one. -/
  | answer (protocol : DbProtocol) (rowCount : ℕ) (errorMessage : String)
  /-- It takes the pending request and emits an event if there is one. -/
  | answerPending (protocol : DbProtocol) (rowCount : ℕ) (errorMessage : String)
deriving DecidableEq

/-! ## Buffers -/

/-- `read_null_string`. -/
def readNullString (data : List UInt8) : String := fromUtf8Lossy (data.takeWhile (· ≠ 0))

/-- `skip_null_string`. -/
def skipNullString (data : List UInt8) : List UInt8 := (data.dropWhile (· ≠ 0)).drop 1

/-- The pieces of a text between line ends `\r\n`. -/
def splitCrlf : List Char → List (List Char)
  | [] => [[]]
  | '\r' :: '\n' :: rest => [] :: splitCrlf rest
  | c :: rest =>
    match splitCrlf rest with
    | [] => [[c]]
    | line :: lines => (c :: line) :: lines

/-- `read_crlf_string`. -/
def readCrlfString (data : List UInt8) : String :=
  String.ofList ((splitCrlf (fromUtf8Lossy data).toList).headD [])

/-- `truncate_query`. -/
def truncateQuery (query : String) : String :=
  if query.utf8ByteSize ≤ maxQueryLen then query
  else String.ofList (query.toList.take maxQueryLen) ++ "..."

/-- `socket_key`. -/
def socketKey (pid : UInt32) (port : UInt16) : UInt64 := (pid.toUInt64 <<< 16) ||| port.toUInt64

/-- `format_ip`. -/
def formatIP (ip : UInt32) : String :=
  toString (ip &&& 0xFF) ++ "." ++ toString ((ip >>> 8) &&& 0xFF) ++ "." ++
    toString ((ip >>> 16) &&& 0xFF) ++ "." ++ toString ((ip >>> 24) &&& 0xFF)

/-! ## SQL -/

/-- `strip_schema`. -/
def stripSchema (t : String) : String :=
  String.ofList ((t.toList.splitOn '.').getLast?.getD t.toList)

/-- The brackets and commas around a table name. -/
def isPunctuation (c : Char) : Bool := c = '(' ∨ c = ')' ∨ c = ','

/-- `SELECT`: the table after `FROM`. -/
def selectTable (words origWords : List String) : String :=
  match words.findIdx? (· = "FROM") with
  | some fromIdx =>
    match origWords[fromIdx + 1]? with
    | some table =>
      let tableClean := trimMatches isPunctuation table
      if tableClean ≠ "" ∧ tableClean.toList.head? ≠ some '(' then stripSchema tableClean else ""
    | none => ""
  | none => ""

/-- `INSERT` and `DELETE`: the table after a keyword. -/
def tableAfter (keyword : String) (words origWords : List String) : String :=
  match words.findIdx? (· = keyword) with
  | some idx =>
    match origWords[idx + 1]? with
    | some table => stripSchema (trimMatches isPunctuation table)
    | none => ""
  | none => ""

/-- The table that is the word at a place. -/
def tableAt (i : ℕ) (origWords : List String) : String :=
  match origWords[i]? with
  | some name => stripSchema name
  | none => ""

/-- `parse_sql`: the operation and the table of a query. -/
def parseSql (query : String) : String × String :=
  let trimmed := trim query
  if trimmed = "" then ("UNKNOWN", "")
  else
    let words := splitWhitespace (toUppercase trimmed)
    let origWords := splitWhitespace trimmed
    match words with
    | [] => ("UNKNOWN", "")
    | first :: _ =>
      if first = "SELECT" then ("SELECT", selectTable words origWords)
      else if first = "INSERT" then ("INSERT", tableAfter "INTO" words origWords)
      else if first = "UPDATE" then ("UPDATE", tableAt 1 origWords)
      else if first = "DELETE" then ("DELETE", tableAfter "FROM" words origWords)
      else if first = "CREATE" then ("CREATE", tableAt 2 origWords)
      else if first = "DROP" then ("DROP", tableAt 2 origWords)
      else if first = "ALTER" then ("ALTER", tableAt 2 origWords)
      else if first = "TRUNCATE" then
        ("TRUNCATE", tableAt (if words[1]? = some "TABLE" then 2 else 1) origWords)
      else if first ∈ ["BEGIN", "COMMIT", "ROLLBACK", "SAVEPOINT", "SET", "SHOW", "EXPLAIN",
          "DESCRIBE", "DESC", "USE"] then (first, "")
      else ("COMMAND", "")

/-! ## PostgreSQL -/

/-- `parse_pg_command_complete`: the number of rows in a tag. -/
def parsePgCommandComplete (tag : String) : ℕ :=
  let parts := splitWhitespace tag
  let rows (i : ℕ) : ℕ := (parts[i]?.bind parseU64).getD 0
  match parts with
  | [] => 0
  | first :: _ =>
    if first = "SELECT" then rows 1
    else if first = "INSERT" then rows 2
    else if first = "UPDATE" then rows 1
    else if first = "DELETE" then rows 1
    else if first = "COPY" then rows 1
    else 0

/-- The loop of `parse_pg_error_response`, with the number of bytes to skip: the value of the first
field of type `M`. -/
def pgMessageField : ℕ → List UInt8 → Option String
  | _, [] => none
  | skip + 1, _ :: rest => pgMessageField skip rest
  | 0, fieldType :: rest =>
    if fieldType = 0 then none
    else if rest = [] then none
    else
      let value := readNullString rest
      if fieldType = 'M'.toUInt8 then some value
      else pgMessageField (value.utf8ByteSize + 1) rest

/-- `parse_pg_error_response`. -/
def parsePgErrorResponse (payload : List UInt8) : String :=
  if payload.length < 6 then ""
  else
    let data := payload.drop 5
    (pgMessageField 0 data).getD (fromUtf8Lossy data)

/-- What `parse_postgresql` does with a message that has a query. -/
def pgRequest (query : String) : Action :=
  .request .postgreSQL (truncateQuery query) (parseSql query).1 (parseSql query).2

/-- `parse_postgresql`. -/
def parsePostgresql (payload : List UInt8) : Action :=
  match payload with
  | [] => .pass
  | msgType :: _ =>
    -- Query
    if msgType = 'Q'.toUInt8 then pgRequest (readNullString (payload.drop 5))
    -- Parse: the name of the statement comes first
    else if msgType = 'P'.toUInt8 then
      pgRequest (readNullString (skipNullString (payload.drop 5)))
    -- CommandComplete
    else if msgType = 'C'.toUInt8 then
      .answer .postgreSQL (parsePgCommandComplete (readNullString (payload.drop 5))) ""
    -- ErrorResponse
    else if msgType = 'E'.toUInt8 then .answer .postgreSQL 0 (parsePgErrorResponse payload)
    -- ReadyForQuery
    else if msgType = 'Z'.toUInt8 then .answerPending .postgreSQL 0 ""
    else .pass

/-! ## MySQL -/

/-- A number in little-endian bytes. -/
def fromLeBytes (data : List UInt8) : ℕ := data.foldr (fun b n => b.toNat + 256 * n) 0

/-- `read_lenenc_int`. -/
def readLenencInt (data : List UInt8) : ℕ :=
  match data with
  | [] => 0
  | first :: rest =>
    if first ≤ 0xFB then first.toNat
    else if first = 0xFC then if data.length < 3 then 0 else fromLeBytes (rest.take 2)
    else if first = 0xFD then if data.length < 4 then 0 else fromLeBytes (rest.take 3)
    else if first = 0xFE then if data.length < 9 then 0 else fromLeBytes (rest.take 8)
    else 0

/-- `parse_mysql`. -/
def parseMysql (payload : List UInt8) : Action :=
  match payload[4]? with
  | none => .pass
  | some pktType =>
    -- COM_QUERY
    if pktType = 0x03 then
      let query := readNullString (payload.drop 5)
      .request .mySQL (truncateQuery query) (parseSql query).1 (parseSql query).2
    -- OK packet
    else if pktType = 0x00 then .answer .mySQL (readLenencInt (payload.drop 5)) ""
    -- ERR packet
    else if pktType = 0xFF then
      .answer .mySQL 0
        (if payload.length > 9 then fromUtf8Lossy (payload.drop 9) else "unknown error")
    -- Greeting
    else if pktType = 0x0A then .pass
    -- COM_STMT_EXECUTE
    else if pktType = 0x17 then .request .mySQL "<prepared statement>" "EXECUTE" ""
    else .pass

/-! ## Redis -/

/-- The elements of an array: every second one of the lines after the first, `count` at most. -/
def respArgs : ℕ → List (List Char) → List String
  | count + 1, _ :: value :: lines => String.ofList value :: respArgs count lines
  | _, _ => []

/-- `parse_redis_resp_array`: the command and its first argument. -/
def parseRedisRespArray (data : List UInt8) : String × String :=
  let lines := splitCrlf (fromUtf8Lossy data).toList
  let countLine := lines.headD []
  let count := if countLine.head? = some '*' then
      (parseU64 (String.ofList countLine.tail)).getD 0 else 0
  if count = 0 then ("UNKNOWN", "")
  else
    let args := respArgs count lines.tail
    (args[0]?.getD "", args[1]?.getD "")

/-- `trim_end_matches("\r\n")`, then `trim_end_matches('\n')`, on the reversed text. -/
def trimLineEnds : List Char → List Char
  | '\n' :: '\r' :: rest => trimLineEnds rest
  | text => text.dropWhile (· = '\n')

/-- `parse_redis_inline_cmd`. -/
def parseRedisInlineCmd (data : List UInt8) : String × String :=
  let line := String.ofList (trimLineEnds (fromUtf8Lossy data).toList.reverse).reverse
  let parts := splitWhitespace line
  (parts[0]?.getD "", parts[1]?.getD "")

/-- The commands that read. -/
def readCommands : List String :=
  ["GET", "MGET", "HGET", "HGETALL", "HMGET", "HKEYS", "HVALS", "HLEN", "LINDEX", "LLEN",
    "LRANGE", "SCARD", "SISMEMBER", "SMEMBERS", "SRANDMEMBER", "SINTER", "SUNION", "SDIFF",
    "ZCARD", "ZSCORE", "ZRANK", "ZREVRANK", "ZRANGE", "ZREVRANGE", "ZRANGEBYSCORE",
    "ZREVRANGEBYSCORE", "ZCOUNT", "TYPE", "EXISTS", "TTL", "PTTL", "STRLEN", "GETRANGE", "KEYS",
    "SCAN", "SSCAN", "HSCAN", "ZSCAN", "RANDOMKEY", "DBSIZE", "OBJECT", "SUBSTR"]

/-- The commands that write. -/
def writeCommands : List String :=
  ["SET", "MSET", "HSET", "HMSET", "HSETNX", "LPUSH", "RPUSH", "LPOP", "RPOP", "LSET", "LREM",
    "SADD", "SREM", "SPOP", "SMOVE", "ZADD", "ZREM", "ZINCRBY", "ZREMRANGEBYRANK",
    "ZREMRANGEBYSCORE", "APPEND", "INCR", "DECR", "INCRBY", "DECRBY", "INCRBYFLOAT", "SETNX",
    "SETEX", "PSETEX", "MSETNX", "DEL", "UNLINK", "RENAME", "RENAMENX", "EXPIRE", "EXPIREAT",
    "PEXPIRE", "PEXPIREAT", "PERSIST", "SORT", "BITOP", "SETBIT", "GETBIT", "BITCOUNT", "BITPOS",
    "PFADD", "PFMERGE"]

/-- The commands for the key space. -/
def keyCommands : List String := ["DUMP", "RESTORE", "MIGRATE", "WAIT", "DEBUG", "SWAPDB"]

/-- The commands for the server. -/
def adminCommands : List String :=
  ["AUTH", "PING", "ECHO", "SELECT", "QUIT", "INFO", "CONFIG", "FLUSHDB", "FLUSHALL", "SAVE",
    "BGSAVE", "BGREWRITEAOF", "LASTSAVE", "SHUTDOWN", "SLOWLOG", "CLIENT", "MONITOR", "SYNC",
    "PSYNC", "REPLICAOF", "SLAVEOF", "CLUSTER", "SCRIPT", "EVAL", "EVALSHA", "SUBSCRIBE",
    "UNSUBSCRIBE", "PUBLISH", "PSUBSCRIBE", "PUNSUBSCRIBE", "WATCH", "UNWATCH", "MULTI", "EXEC",
    "DISCARD", "RESET", "ASKING", "READONLY", "READWRITE", "MEMORY", "MODULE", "LATENCY", "TIME",
    "COMMAND", "XADD", "XLEN", "XRANGE", "XREVRANGE", "XREAD", "XINFO", "XDEL", "XTRIM",
    "XREADGROUP", "XGROUP", "XACK", "XCLAIM", "XPENDING"]

/-- `redis_command_type`. -/
def redisCommandType (command : String) : String :=
  let cmd := toUppercase command
  if cmd ∈ readCommands then "READ"
  else if cmd ∈ writeCommands then "WRITE"
  else if cmd ∈ keyCommands then "KEY"
  else if cmd ∈ adminCommands then "ADMIN"
  else "OTHER"

/-- `format_redis_command`. -/
def formatRedisCommand (command key : String) : String :=
  if key = "" then command else command ++ " " ++ key

/-- What `parse_redis_resp` and `parse_redis_inline` do with a command. -/
def redisRequest (cmd : String × String) : Action :=
  .request .redis (truncateQuery (formatRedisCommand cmd.1 cmd.2)) (redisCommandType cmd.1) cmd.2

/-- `parse_redis_resp`. -/
def parseRedisResp (payload : List UInt8) : Action := redisRequest (parseRedisRespArray payload)

/-- `parse_redis_inline`. -/
def parseRedisInline (payload : List UInt8) : Action := redisRequest (parseRedisInlineCmd payload)

/-- `is_ascii_uppercase` or `is_ascii_lowercase`. -/
def isAsciiLetter (b : UInt8) : Bool :=
  ('A'.toUInt8 ≤ b ∧ b ≤ 'Z'.toUInt8) ∨ ('a'.toUInt8 ≤ b ∧ b ≤ 'z'.toUInt8)

/-- `parse_redis`. -/
def parseRedis (payload : List UInt8) : Action :=
  match payload with
  | [] => .pass
  | first :: rest =>
    if first = '*'.toUInt8 then parseRedisResp payload
    else if first = '+'.toUInt8 then .answerPending .redis 0 ""
    else if first = '-'.toUInt8 then .answerPending .redis 0 (readCrlfString payload)
    else if first = ':'.toUInt8 then
      .answerPending .redis ((parseU64 (trim (readCrlfString rest))).getD 0) ""
    else if isAsciiLetter first then parseRedisInline payload
    else if first = '$'.toUInt8 then .answerPending .redis 0 ""
    else .pass

/-! ## The inspector -/

/-- `DbInspector`. -/
structure DbInspector where
  pending : UInt64 → Option PendingRequest := fun _ => none
  stats : InspectorStats := {}

/-- The first bytes that `detect_protocol` knows of PostgreSQL. -/
def pgFirstBytes : List UInt8 :=
  ['R', 'K', 'T', 'D', 'C', 'E', 'Z', 'N', 'S', 'Q', 'P', 'B'].map Char.toUInt8

/-- The status bytes that `detect_protocol` knows of MySQL. -/
def mysqlStatusBytes : List UInt8 := [0x0A, 0x00, 0xFF, 0x03, 0x17]

/-- The first bytes that `detect_protocol` knows of Redis, but for letters. -/
def redisMarkers : List UInt8 := ['*', '+', '-', ':', '$'].map Char.toUInt8

/-- `detect_protocol`. -/
def detectProtocol (payload : List UInt8) (port : UInt16) : DbProtocol :=
  match payload with
  | b₀ :: b₁ :: _ =>
    if b₀ = 0x16 ∧ b₁ = 0x03 then .encrypted
    else if port = pgPort ∧ b₀ ∈ pgFirstBytes then .postgreSQL
    else if port = mysqlPort ∧ payload[4]?.any (· ∈ mysqlStatusBytes) then .mySQL
    else if (port = redisPort ∨ port = redisSentinelPort) ∧
        (b₀ ∈ redisMarkers ∨ isAsciiLetter b₀) then .redis
    else .unknown
  | _ => .unknown

/-- The counter an event of the protocol goes to: `increment_pg` and the like. -/
def InspectorStats.increment (stats : InspectorStats) : DbProtocol → InspectorStats
  | .postgreSQL => { stats with pgQueries := stats.pgQueries + 1 }
  | .mySQL => { stats with mysqlQueries := stats.mysqlQueries + 1 }
  | .redis => { stats with redisCommands := stats.redisCommands + 1 }
  | _ => stats

namespace DbInspector

/-- `record_protocol`. -/
def recordProtocol (s : DbInspector) (protocol : DbProtocol) : DbInspector :=
  let stats := { s.stats with totalEvents := s.stats.totalEvents + 1 }
  match protocol with
  | .unknown => { s with stats := { stats with unknownEvents := stats.unknownEvents + 1 } }
  | .encrypted => { s with stats := { stats with encryptedEvents := stats.encryptedEvents + 1 } }
  | _ => { s with stats }

/-- The event for a response, with what was pending. -/
def responseEvent (c : Capture) (now : ℕ) (protocol : DbProtocol) (req : Option PendingRequest)
    (rowCount : ℕ) (errorMessage : String) : DbQueryEvent where
  protocol := protocol.asStr
  query := (req.map PendingRequest.query).getD ""
  queryType := (req.map PendingRequest.queryType).getD "COMMAND"
  tableName := (req.map PendingRequest.tableName).getD ""
  latency := (req.map (now - ·.sentAt)).getD 0
  rowCount
  errorMessage
  sourceIP := formatIP c.srcIP
  destinationIP := formatIP c.dstIP
  destinationPort := c.port
  pid := c.pid
  processName := c.processName

/-- The map with the entry of a socket set to what is given. -/
def setPending (s : DbInspector) (key : UInt64) (req : Option PendingRequest) : DbInspector :=
  { s with pending := Function.update s.pending key req }

/-- What the branches of the parsers do to the map and emit. -/
def perform (s : DbInspector) (now : ℕ) (c : Capture) :
    Action → DbInspector × Option DbQueryEvent
  | .pass => (s, none)
  | .request protocol query queryType tableName =>
    (s.setPending (socketKey c.pid c.port)
      (some ⟨now, protocol, query, queryType, tableName⟩), none)
  | .answer protocol rowCount errorMessage =>
    let key := socketKey c.pid c.port
    let s' := s.setPending key none
    ({ s' with stats := s'.stats.increment protocol },
      some (responseEvent c now protocol (s.pending key) rowCount errorMessage))
  | .answerPending protocol rowCount errorMessage =>
    let key := socketKey c.pid c.port
    match s.pending key with
    | none => (s, none)
    | some req =>
      let s' := s.setPending key none
      ({ s' with stats := s'.stats.increment protocol },
        some (responseEvent c now protocol (some req) rowCount errorMessage))

/-- The event for an encrypted payload. -/
def encryptedEvent (c : Capture) : DbQueryEvent where
  protocol := DbProtocol.encrypted.asStr
  sourceIP := formatIP c.srcIP
  destinationIP := formatIP c.dstIP
  destinationPort := c.port
  pid := c.pid
  processName := c.processName
  isEncrypted := true

/-- `inspect`. -/
def inspect (s : DbInspector) (now : ℕ) (c : Capture) : DbInspector × Option DbQueryEvent :=
  if c.payload = [] then (s, none)
  else
    let protocol := detectProtocol c.payload c.port
    let s := s.recordProtocol protocol
    match protocol with
    | .encrypted => (s, some (encryptedEvent c))
    | .postgreSQL => s.perform now c (parsePostgresql c.payload)
    | .mySQL => s.perform now c (parseMysql c.payload)
    | .redis => s.perform now c (parseRedis c.payload)
    | .unknown => (s, none)

end DbInspector

end Paryty.Agent.Db
