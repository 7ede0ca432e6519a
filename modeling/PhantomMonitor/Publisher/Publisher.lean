import PhantomMonitor.Misc.CText

/-!
# Publisher

The functions of `publisher.c` that send JSON text to the monitoring server with libcurl.

libcurl and the file system are the environment: whether `curl_easy_init` returns a handle,
whether `fopen` succeeds and on which bytes, the outcome of each `curl_easy_perform` of a call
(`perform k` is the `k`-th one), and the pieces in which the server's answer reaches the write
callback. A NULL argument is not told apart from an empty string; both fail the same checks.
-/

namespace PhantomMonitor

open CText

/-- `SUCCESS` (`publisher.c:23`). -/
def success : Int := 1

/-- `FAILED` (`publisher.c:24`). -/
def failed : Int := 0

/-- The curl easy handles and stdio streams that are open. -/
structure Resources where
  handles : Nat
  streams : Nat
  deriving DecidableEq, Repr

/-- One POST: the text given to curl, the outcome of `curl_easy_perform`, and the file lines
that were put into the text. -/
structure Post where
  records : List CText
  body : CText
  ok : Bool
  deriving DecidableEq, Repr

/-- `check_URL` (`publisher.c:208-216`). -/
def checkURL (url : CText) : Int := if url = [] then failed else success

/-- `check_message` (`publisher.c:220-228`). -/
def checkMessage (message : CText) : Int := if message = [] then failed else success

/-- `prepare_publish` (`publisher.c:243-257`): a handle, unless `curl_easy_init` fails. -/
def preparePublish (curlInit : Bool) (r : Resources) : Option Resources :=
  if curlInit then some { r with handles := r.handles + 1 } else none

/-- `prepare_query` (`publisher.c:260-271`) makes its handle in the same way. -/
def prepareQuery (curlInit : Bool) (r : Resources) : Option Resources :=
  preparePublish curlInit r

/-- `curl_easy_cleanup`. -/
def curlEasyCleanup (r : Resources) : Resources := { r with handles := r.handles - 1 }

/-- `get_stream_data` (`publisher.c:282-295`): a piece of the answer is copied to the start of
the stream, with a NUL after it. `realloc` is taken to resize the stream where it is. -/
def getStreamData (stream piece : CText) : CText :=
  piece ++ nul :: stream.drop (piece.length + 1)

/-- What one transfer meets: the handle, the pieces of the answer and the outcome. -/
structure Transfer where
  curlInit : Bool
  pieces : List CText
  perform : Bool

/-- `query_json` (`publisher.c:46-73`): the return value, the caller's buffer and the
resources. -/
def queryJson (t : Transfer) (url responseStr : CText) (r : Resources) :
    Int × CText × Resources :=
  if checkURL url = failed then (failed, responseStr, r)
  else
    match prepareQuery t.curlInit r with
    | none => (failed, responseStr, r)
    | some r =>
        let responseStr := t.pieces.foldl getStreamData responseStr
        if t.perform then (success, responseStr, curlEasyCleanup r)
        else (failed, responseStr, r)

/-- `publish_json` (`publisher.c:77-101`): the return value, the posts made and the
resources. -/
def publishJson (t : Transfer) (url message : CText) (r : Resources) :
    Int × List Post × Resources :=
  if checkURL url = failed ∨ checkMessage message = failed then (failed, [], r)
  else
    match preparePublish t.curlInit r with
    | none => (failed, [], r)
    | some r =>
        let posts := [{ records := [], body := message, ok := t.perform }]
        if t.perform then (success, posts, curlEasyCleanup r) else (failed, posts, r)

/-- `create_new_experiment` (`publisher.c:182-204`): the return value, the buffer for the
identifier and the resources. -/
def createNewExperiment (t : Transfer) (url message experimentId : CText) (r : Resources) :
    Int × CText × Resources :=
  if checkURL url = failed ∨ checkMessage message = failed then (failed, experimentId, r)
  else
    match preparePublish t.curlInit r with
    | none => (failed, experimentId, r)
    | some r =>
        let experimentId := t.pieces.foldl getStreamData experimentId
        if t.perform then (success, experimentId, curlEasyCleanup r)
        else (failed, experimentId, r)

/-! ## `publish_file` -/

/-- What one call of `publish_file` meets. `content` is `none` when `fopen` fails. -/
structure FileTransfer where
  curlInit : Bool
  content : Option CText
  perform : Nat → Bool

/-- The variables of the reading loop: the counter `i` and the buffer `message`, and on top of
them the lines already in `message` and the posts made. -/
structure Posting where
  i : Nat
  message : CText
  records : List CText
  posts : List Post
  deriving DecidableEq, Repr

/-- The size of `message`, `10 * 320` (`publisher.c:115`). -/
def messageSize : Nat := 3200

/-- The size of `line` (`publisher.c:114`). -/
def lineSize : Nat := 320

/-- The format `{%s, %s}` of one record. -/
def objectText (staticString line : CText) : CText :=
  '{' :: staticString ++ [',', ' '] ++ line ++ ['}']

/-- `curl_easy_perform` on the text in `message`. -/
def postMessage (perform : Nat → Bool) (st : Posting) : Posting × Bool :=
  ({ st with posts := st.posts ++ [⟨st.records, st.message, perform st.posts.length⟩] },
    perform st.posts.length)

/-- `i = 0` and `memset` after a complete message (`publisher.c:154-155`). -/
def resetMessage (st : Posting) : Posting := { st with i := 0, message := [], records := [] }

/-- The line as it is sent: `line[strlen (line) - 1] = '\0'` (`publisher.c:134`) drops the last
character, whatever it is. -/
def chop (line : CText) : CText := (cstr line).dropLast

/-- The body of the reading loop (`publisher.c:134-163`); `false` when it returns `FAILED`. -/
def publishLine (perform : Nat → Bool) (staticString line : CText) (st : Posting) :
    Except Fault (Posting × Bool) :=
  -- an empty string has no last character: the store goes to `line[-1]`
  if cstr line = [] then .error .outOfBounds
  else if st.i = 0 then do
    let message ← store messageSize ('[' :: objectText staticString (chop line))
    return ({ st with i := st.i + 1, message, records := st.records ++ [chop line] }, true)
  else if st.i = 9 then do
    let message ← store messageSize
      (st.message ++ ',' :: objectText staticString (chop line) ++ [']'])
    match postMessage perform { st with message, records := st.records ++ [chop line] } with
    | (st, true) => return (resetMessage st, true)
    | (st, false) => return (st, false)
  else do
    let message ← store messageSize (st.message ++ ',' :: objectText staticString (chop line))
    return ({ st with i := st.i + 1, message, records := st.records ++ [chop line] }, true)

/-- The reading loop (`publisher.c:133-164`) over the lines that `fgets` delivers. -/
def publishLines (perform : Nat → Bool) (staticString : CText) :
    List CText → Posting → Except Fault (Posting × Bool)
  | [], st => .ok (st, true)
  | line :: lines, st =>
      match publishLine perform staticString line st with
      | .error fault => .error fault
      | .ok (st, true) => publishLines perform staticString lines st
      | .ok (st, false) => .ok (st, false)

/-- The last, incomplete message (`publisher.c:166-178`). -/
def publishRest (perform : Nat → Bool) (st : Posting) : Except Fault (Posting × Bool) :=
  if 0 < st.i then do
    let message ← store messageSize (st.message ++ [']'])
    return postMessage perform { st with message }
  else .ok (st, true)

/-- The part of `publish_file` between `fopen` and the clean-up (`publisher.c:132-178`): the
posts made, and whether it gets to the clean-up. -/
def publishContent (perform : Nat → Bool) (staticString content : CText) :
    Except Fault (List Post × Bool) :=
  match publishLines perform staticString (readLines lineSize content) ⟨0, [], [], []⟩ with
  | .error fault => .error fault
  | .ok (st, false) => .ok (st.posts, false)
  | .ok (st, true) =>
      match publishRest perform st with
      | .error fault => .error fault
      | .ok (st, go) => .ok (st.posts, go)

/-- What a call of `publish_file` returns and leaves behind. -/
structure Published where
  ret : Int
  posts : List Post
  res : Resources
  deriving DecidableEq, Repr

/-- `publish_file` (`publisher.c:106-182`). No path closes the file, and only the last one
releases the handle. -/
def publishFile (t : FileTransfer) (url staticString filename : CText) (r : Resources) :
    Except Fault Published :=
  if checkURL url = failed ∨ checkMessage staticString = failed ∨ checkMessage filename = failed
  then .ok ⟨failed, [], r⟩
  else
    match preparePublish t.curlInit r with
    | none => .ok ⟨failed, [], r⟩
    | some r =>
        match t.content with
        | none => .ok ⟨failed, [], r⟩
        | some content =>
            let r := { r with streams := r.streams + 1 }
            match publishContent t.perform staticString content with
            | .error fault => .error fault
            | .ok (posts, false) => .ok ⟨failed, posts, r⟩
            | .ok (posts, true) => .ok ⟨success, posts, curlEasyCleanup r⟩

end PhantomMonitor
