import AgentFacts.Database.EventLog
import AgentFacts.Proofs.Handlers
import AgentFacts.Proofs.Staleness
import Mathlib.Data.List.Basic

namespace AgentFacts

/-- A row of the table of envelopes. What it reads as, if it can be read, has its id. -/
structure StoredRow where
  id : Int
  row : Row
  positive : 1 ≤ id
  readsId : ∀ e, Envelope.ofRow row = .ok e → e.id = ⟨id⟩

theorem Envelope.id_of_ofRow {row : Row} {id : Int} {e : Envelope}
    (h : row.get "id" Cell.toInt = .ok id) (he : Envelope.ofRow row = .ok e) : e.id = ⟨id⟩ := by
  unfold Envelope.ofRow at he
  obtain ⟨found, hfound, he⟩ := ok_of_bind_ok he
  obtain rfl : id = found := Except.ok.inj (h.symm.trans hfound)
  obtain ⟨_, -, he⟩ := ok_of_bind_ok he
  obtain ⟨_, -, he⟩ := ok_of_bind_ok he
  obtain ⟨_, -, he⟩ := ok_of_bind_ok he
  obtain ⟨_, -, he⟩ := ok_of_bind_ok he
  cases he
  rfl

def StoredRow.envelope? (r : StoredRow) : Option Envelope :=
  (Envelope.ofRow r.row).toOption

/-- A server with a table of envelopes that does not change. -/
structure PageServer where
  rows : List StoredRow
  ascending : rows.Pairwise (·.id < ·.id)
  /-- The error with which a statement is refused, by how many statements came before it. -/
  refusal? : Nat → Option DatabaseError

namespace PageServer

/-- The first rows with a greater id. -/
def first (v : PageServer) (limit : Nat) (after : Int) : List StoredRow :=
  (v.rows.filter fun r => decide (after < r.id)).take limit

/-- The answer to a statement that asks for a page, by the values that are bound to it. -/
def reply (v : PageServer) (turn : Nat) : List Param → Reply
  | [.int after, .int limit] =>
    match v.refusal? turn with
    | some error => .refused error
    | none => .done ((v.first limit.toNat after).map (·.row)) 0
  | _ => .done [] 0

/-- If a step of a session has sent a statement, the first one in a line of replies is the answer of
the server to it. -/
def Serves (v : PageServer) (replies : List Reply) (s s' : Session) : Prop :=
  s'.sent = s.sent ∨ ∃ statement, s'.sent = statement :: s.sent ∧
    replies.head? = some (v.reply s.sent.length statement.params)

/-- Some items of a stream are read, one after another, while the server answers. -/
inductive Reads (v : PageServer) :
    EnvelopeStream → Session → List (Except DatabaseError Envelope) →
      EnvelopeStream → Session → Prop
  | none (stream : EnvelopeStream) (s : Session) : Reads v stream s [] stream s
  | item {stream stream' stream'' : EnvelopeStream} {s s' s'' : Session} {replies : List Reply}
      {item : Except DatabaseError Envelope} {items : List (Except DatabaseError Envelope)}
      (hnext : (Session.nextItem stream).run { s with replies } = (some (item, stream'), s'))
      (hserved : v.Serves replies s s') (hrest : Reads v stream' s' items stream'' s'') :
      Reads v stream s (item :: items) stream'' s''

/-- A stream is read to its end. -/
inductive Reading (v : PageServer) :
    EnvelopeStream → Session → List (Except DatabaseError Envelope) → Session → Prop
  | ends {stream : EnvelopeStream} {s s' : Session} {replies : List Reply}
      (hnext : (Session.nextItem stream).run { s with replies } = (none, s'))
      (hserved : v.Serves replies s s') : Reading v stream s [] s'
  | item {stream stream' : EnvelopeStream} {s s' s'' : Session} {replies : List Reply}
      {item : Except DatabaseError Envelope} {items : List (Except DatabaseError Envelope)}
      (hnext : (Session.nextItem stream).run { s with replies } = (some (item, stream'), s'))
      (hserved : v.Serves replies s s') (hrest : Reading v stream' s' items s'') :
      Reading v stream s (item :: items) s''

def readable (v : PageServer) : List Envelope :=
  v.rows.filterMap StoredRow.envelope?

/-- Those with a greater id, or all of them. -/
def wanted (v : PageServer) (after : Option EnvelopeId) : List Envelope :=
  v.readable.filter fun e => after.all fun id => decide (id < e.id)

def fetched (v : PageServer) (turn : Nat) (after : Int) : EnvelopeStream :=
  .ofPage (match v.refusal? turn with
    | some error => .error error
    | none => .ok ((v.first Statement.pageSize after).map (·.row)))

/-- The items of the pages that start after some ids, one after another. -/
def itemsFrom (v : PageServer) : Nat → List Int → List (Except DatabaseError Envelope)
  | _, [] => []
  | turn, after :: rest => (v.fetched turn after).items ++
      v.itemsFrom (turn + 1) rest

/-- The ids after which the pages of a stream start. -/
inductive Starts (v : PageServer) : Nat → Option Int → List Int → Prop
  | stop {turn : Nat} : Starts v turn none []
  | page {turn : Nat} {after : Int} {starts : List Int}
      (hrest : Starts v (turn + 1) (v.fetched turn after).cursor starts) :
      Starts v turn (some after) (after :: starts)

end PageServer

def EnvelopeStream.read (items : List (Except DatabaseError Envelope)) : List Envelope :=
  items.filterMap Except.toOption

namespace Session

def IsReady (s : Session) : Prop :=
  s.isOpen = true ∧ s.inTransaction = false

variable {s : Session}

theorem isReady_new (connections : Nat) : (new connections).IsReady :=
  ⟨rfl, rfl⟩

theorem run_nextItem_cons (s : Session) (item : Except DatabaseError Envelope)
    (rest : List (Except DatabaseError Envelope)) (cursor : Option Int) :
    (nextItem ⟨item :: rest, cursor⟩).run s = (some (item, ⟨rest, cursor⟩), s) :=
  rfl

theorem run_nextItem_none (s : Session) : (nextItem ⟨[], none⟩).run s = (none, s) :=
  rfl

/-- A stream without items asks for a page, and goes on with what it gets. -/
theorem run_nextItem_page (h : s.IsReady) (replies : List Reply) (after : Int) :
    (nextItem ⟨[], some after⟩).run { s with replies } =
      ((EnvelopeStream.ofPage (match replies.head? with
          | some (.refused error) => .error error
          | some (.done rows _) => .ok rows
          | none => .ok [])).take?,
        { s with replies := replies.tail }.note (.page after)) := by
  obtain ⟨hopen, htransaction⟩ := h
  cases s with
  | mk =>
    dsimp only at hopen htransaction
    subst hopen htransaction
    cases replies with
    | nil => rfl
    | cons reply replies => cases reply <;> rfl

end Session

namespace EnvelopeStream

variable {items items' : List (Except DatabaseError Envelope)}

theorem take?_eq_none {s : EnvelopeStream} (h : s.take? = none) : s.items = [] := by
  unfold take? at h
  split at h
  · assumption
  · cases h

theorem take?_eq_some {s s' : EnvelopeStream} {item : Except DatabaseError Envelope}
    (h : s.take? = some (item, s')) : s.items = item :: s'.items ∧ s'.cursor = s.cursor := by
  unfold take? at h
  split at h
  · cases h
  next hitems =>
    cases h
    exact ⟨hitems, rfl⟩

theorem read_append : read (items ++ items') = read items ++ read items' :=
  List.filterMap_append ..

theorem lastId?_eq (items : List (Except DatabaseError Envelope)) :
    lastId? items = (read items).getLast?.map (·.id.value) := by
  unfold lastId? read
  rw [List.getLast?_filterMap, List.map_findSome?]
  congr 1
  funext item
  cases item <;> rfl

end EnvelopeStream

namespace PageServer

variable {v : PageServer} {turn : Nat} {after next : Int} {starts : List Int} {s s' : Session}
  {stream : EnvelopeStream} {items : List (Except DatabaseError Envelope)}

def found (rows : List StoredRow) : List Envelope :=
  rows.filterMap StoredRow.envelope?

/-- The readable envelopes with a greater id. -/
def beyond (v : PageServer) (after : Int) : List Envelope :=
  v.readable.filter fun e => decide (after < e.id.value)

theorem id_of_envelope? {r : StoredRow} {e : Envelope} (h : r.envelope? = some e) :
    e.id.value = r.id := by
  unfold StoredRow.envelope? at h
  cases hread : Envelope.ofRow r.row with
  | error error =>
    rw [hread] at h
    cases h
  | ok e' =>
    rw [hread] at h
    cases h
    rw [r.readsId e hread]

theorem readable_ascends (v : PageServer) : v.readable.Pairwise (·.id < ·.id) := by
  refine v.ascending.filterMap _ fun r r' hlt e he e' he' => ?_
  rw [EnvelopeId.lt_iff, id_of_envelope? he, id_of_envelope? he']
  exact hlt

theorem beyond_ascends (v : PageServer) (after : Int) :
    (v.beyond after).Pairwise (·.id < ·.id) :=
  v.readable_ascends.sublist List.filter_sublist

theorem beyond_beyond (h : after ≤ next) :
    (v.beyond after).filter (fun e => decide (next < e.id.value)) = v.beyond next := by
  unfold beyond
  rw [List.filter_filter]
  refine List.filter_congr fun e _ => ?_
  by_cases hlt : next < e.id.value
  · simp [hlt, Int.lt_of_le_of_lt h hlt]
  · simp [hlt]

/-- The readable envelopes with a greater id are on the first page and on the rows that follow. -/
theorem found_first (v : PageServer) (limit : Nat) (after : Int) :
    ∃ rest, found (v.first limit after) ++ rest = v.beyond after := by
  refine ⟨found ((v.rows.filter fun r => decide (after < r.id)).drop limit), ?_⟩
  unfold found first
  rw [← List.filterMap_append, List.take_append_drop]
  unfold beyond readable
  rw [List.filter_filterMap, List.filterMap_filter]
  refine List.filterMap_congr fun r _ => ?_
  cases he : r.envelope? with
  | none => simp
  | some e => simp [Option.filter, id_of_envelope? he]

theorem fetched_of_refused {error : DatabaseError} (h : v.refusal? turn = some error) :
    v.fetched turn after = ⟨[.error error], none⟩ := by
  unfold fetched
  rw [h]
  rfl

theorem read_items_of_accepted (h : v.refusal? turn = none) :
    EnvelopeStream.read (v.fetched turn after).items =
      found (v.first Statement.pageSize after) := by
  unfold fetched
  rw [h]
  change EnvelopeStream.read (((v.first _ _).map (·.row)).map Envelope.ofRow) = _
  unfold EnvelopeStream.read
  rw [List.map_map, List.filterMap_map]
  rfl

/-- The next page starts after the last envelope of this one that could be read. -/
theorem cursor_eq : (v.fetched turn after).cursor =
    (EnvelopeStream.read (v.fetched turn after).items).getLast?.map (·.id.value) := by
  unfold fetched EnvelopeStream.ofPage
  split
  · rfl
  · exact EnvelopeStream.lastId?_eq _

theorem itemsFrom_cons (v : PageServer) (turn : Nat) (after : Int) (rest : List Int) :
    v.itemsFrom turn (after :: rest) =
      (v.fetched turn after).items ++ v.itemsFrom (turn + 1) rest :=
  rfl

/-- A page that another one follows has been answered and has an envelope that could be read, and
what lies beyond the start of the other is all that has not been found yet. -/
theorem page_leads (h : (v.fetched turn after).cursor = some next) :
    let got := EnvelopeStream.read (v.fetched turn after).items
    v.refusal? turn = none ∧ after < next ∧ got ≠ [] ∧ got ++ v.beyond next = v.beyond after := by
  intro got
  cases hrefusal : v.refusal? turn with
  | some error =>
    rw [fetched_of_refused hrefusal] at h
    cases h
  | none =>
    obtain ⟨last, hlast, rfl⟩ := Option.map_eq_some_iff.1 (cursor_eq.symm.trans h)
    obtain ⟨rest, hrest⟩ := v.found_first Statement.pageSize after
    rw [← read_items_of_accepted hrefusal] at hrest
    have hmem : last ∈ v.beyond after :=
      hrest ▸ List.mem_append_left _ (List.mem_of_getLast? hlast)
    have hlt : after < last.id.value := of_decide_eq_true (List.mem_filter.1 hmem).2
    refine ⟨rfl, hlt, List.ne_nil_of_mem (List.mem_of_getLast? hlast), ?_⟩
    -- The rows of the page beyond its last envelope have none, so they may come once more.
    have hpast := Envelope.filter_past (hrest ▸ v.beyond_ascends after) hlast
    rw [hrest] at hpast
    rw [← beyond_beyond (Int.le_of_lt hlt)]
    exact (congrArg _ hpast).trans hrest

/-- From any start, page follows page until there is an end. -/
theorem exists_starts (v : PageServer) (turn : Nat) (after : Int) :
    ∃ starts, v.Starts turn (some after) starts := by
  -- Every page that another one follows leaves fewer readable envelopes beyond it.
  induction hn : (v.beyond after).length using Nat.strongRecOn generalizing turn after with
  | _ n ih =>
    subst hn
    cases hcursor : (v.fetched turn after).cursor with
    | none => exact ⟨[after], .page (hcursor ▸ .stop)⟩
    | some next =>
      obtain ⟨-, -, hfound, hsplit⟩ := page_leads hcursor
      have hpos := List.length_pos_iff.2 hfound
      obtain ⟨starts, hstarts⟩ := ih (v.beyond next).length
        (by rw [← hsplit, List.length_append]; omega) (turn + 1) next rfl
      exact ⟨after :: starts, .page (hcursor ▸ hstarts)⟩

/-- The pages before the last one: each has been answered and has an envelope that can be read, and
what lies beyond the start of the last page is all that is not on them. -/
structure Leads (v : PageServer) (turn : Nat) (after : Int) (before : List Int) (last : Int) :
    Prop where
  proper : ∀ i start, before[i]? = some start →
    v.refusal? (turn + i) = none ∧ found (v.first Statement.pageSize start) ≠ []
  split : EnvelopeStream.read (v.itemsFrom turn before) ++ v.beyond last = v.beyond after
  le : after ≤ last
  few : before.length ≤ (EnvelopeStream.read (v.itemsFrom turn before)).length

theorem Leads.refl (v : PageServer) (turn : Nat) (after : Int) : v.Leads turn after [] after where
  proper _ _ h := by cases h
  split := rfl
  le := Int.le_refl after
  few := Nat.zero_le _

theorem Leads.cons {before : List Int} {last : Int}
    (hcursor : (v.fetched turn after).cursor = some next)
    (h : v.Leads (turn + 1) next before last) : v.Leads turn after (after :: before) last := by
  obtain ⟨hrefusal, hlt, hfound, hsplit⟩ := page_leads hcursor
  refine ⟨fun i start hi => ?_, ?_, Int.le_trans (Int.le_of_lt hlt) h.le, ?_⟩
  · cases i with
    | zero =>
      cases hi
      exact ⟨hrefusal, read_items_of_accepted hrefusal ▸ hfound⟩
    | succ i =>
      have hproper := h.proper i start hi
      rwa [Nat.add_right_comm] at hproper
  · rw [itemsFrom_cons, EnvelopeStream.read_append, List.append_assoc, h.split, hsplit]
  · have hpos := List.length_pos_iff.2 hfound
    have hfew := h.few
    rw [itemsFrom_cons, EnvelopeStream.read_append, List.length_append, List.length_cons]
    omega

/-- What is found on the pages before the last one are the readable envelopes up to its start. -/
theorem Leads.read_eq {before : List Int} {last : Int} (h : v.Leads turn after before last) :
    EnvelopeStream.read (v.itemsFrom turn before) =
      (v.beyond after).filter fun e => decide (e.id.value ≤ last) := by
  have hpast := beyond_beyond (v := v) h.le
  have hnone : (v.beyond last).filter (fun e => decide (e.id.value ≤ last)) = [] := by
    refine List.filter_eq_nil_iff.2 fun e he => ?_
    simpa using of_decide_eq_true (List.mem_filter.1 he).2
  have hrest : (v.beyond last).filter (fun e => decide (last < e.id.value)) = v.beyond last :=
    List.filter_eq_self.2 fun e he => (List.mem_filter.1 he).2
  rw [← h.split, List.filter_append, hrest, List.append_left_eq_self] at hpast
  rw [← h.split, List.filter_append, hnone, List.append_nil]
  refine (List.filter_eq_self.2 fun e he => ?_).symm
  simpa using List.filter_eq_nil_iff.1 hpast e he

theorem Starts.leads (h : v.Starts turn (some after) starts) :
    ∃ before last, starts = before ++ [last] ∧ v.Leads turn after before last ∧
      (v.fetched (turn + before.length) last).cursor = none := by
  induction starts generalizing turn after with
  | nil => cases h
  | cons first starts ih =>
    cases h with
    | page hrest =>
      cases hcursor : (v.fetched turn first).cursor with
      | none =>
        rw [hcursor] at hrest
        cases hrest
        exact ⟨[], first, rfl, .refl v turn first, hcursor⟩
      | some next =>
        rw [hcursor] at hrest
        obtain ⟨before, last, rfl, hleads, hend⟩ := ih hrest
        refine ⟨first :: before, last, rfl, hleads.cons hcursor, ?_⟩
        rw [List.length_cons, ← Nat.add_assoc, Nat.add_right_comm]
        exact hend

theorem itemsFrom_append (v : PageServer) (turn : Nat) (before rest : List Int) :
    v.itemsFrom turn (before ++ rest) =
      v.itemsFrom turn before ++ v.itemsFrom (turn + before.length) rest := by
  induction before generalizing turn with
  | nil => rfl
  | cons first before ih =>
    rw [List.cons_append, itemsFrom_cons, itemsFrom_cons, ih, List.append_assoc, List.length_cons,
      Nat.add_right_comm, Nat.add_assoc]

/-- What the server answers to a statement that asks for a page. -/
theorem run_nextItem_served (h : s.IsReady) {replies : List Reply}
    (hr : replies.head? = some (v.reply turn (Statement.page after).params)) :
    (Session.nextItem ⟨[], some after⟩).run { s with replies } =
      ((v.fetched turn after).take?,
        { s with replies := replies.tail }.note (.page after)) := by
  rw [Session.run_nextItem_page h, hr]
  unfold reply fetched
  cases v.refusal? turn <;> rfl

theorem cursor_of_items_nil (h : (v.fetched turn after).items = []) :
    (v.fetched turn after).cursor = none := by
  rw [cursor_eq, h]
  rfl

theorem Serves.nextItem {replies : List Reply}
    {found : Option (Except DatabaseError Envelope × EnvelopeStream)} (h : v.Serves replies s s')
    (hs : s.IsReady)
    (hnext : (Session.nextItem ⟨[], some after⟩).run { s with replies } = (found, s')) :
    found = (v.fetched s.sent.length after).take? ∧
      s'.sent = .page after :: s.sent ∧ s'.IsReady := by
  have hsent : s'.sent = .page after :: s.sent := by
    rw [Session.run_nextItem_page hs] at hnext
    rw [← (Prod.mk.inj hnext).2]
    rfl
  rcases h with hsame | ⟨statement, hasked, hhead⟩
  · exact absurd (hsent.symm.trans hsame) (List.cons_ne_self _ _)
  · obtain rfl : Statement.page after = statement := (List.cons.inj (hsent.symm.trans hasked)).1
    rw [run_nextItem_served hs hhead] at hnext
    obtain ⟨rfl, rfl⟩ := Prod.mk.inj hnext
    exact ⟨rfl, rfl, hs⟩

/-- In the course of a reading, page after page is asked for, and their items are what is read. -/
theorem Reading.pages (h : v.Reading stream s items s') (hs : s.IsReady) :
    ∃ starts, v.Starts s.sent.length stream.cursor starts ∧
      items = stream.items ++ v.itemsFrom s.sent.length starts ∧
      s'.sent = (starts.map Statement.page).reverse ++ s.sent := by
  induction h with
  | @ends stream s s' replies hnext hserved =>
    obtain ⟨left, cursor⟩ := stream
    cases left with
    | cons item rest => cases hnext
    | nil =>
      cases cursor with
      | none =>
        cases hnext
        exact ⟨[], .stop, rfl, rfl⟩
      | some after =>
        obtain ⟨hfound, hsent, -⟩ := hserved.nextItem hs hnext
        have hnil := EnvelopeStream.take?_eq_none hfound.symm
        refine ⟨[after], .page (cursor_of_items_nil hnil ▸ .stop), ?_, hsent⟩
        rw [itemsFrom_cons, hnil]
        rfl
  | @item stream stream' s s' s'' replies item items hnext hserved hrest ih =>
    obtain ⟨left, cursor⟩ := stream
    cases left with
    | cons item rest =>
      cases hnext
      obtain ⟨starts, hstarts, rfl, hsent⟩ := ih hs
      exact ⟨starts, hstarts, rfl, hsent⟩
    | nil =>
      cases cursor with
      | none => cases hnext
      | some after =>
        obtain ⟨hfound, hsent, hs'⟩ := hserved.nextItem hs hnext
        obtain ⟨hitems, hcursor⟩ := EnvelopeStream.take?_eq_some hfound.symm
        obtain ⟨starts, hstarts, rfl, hmore⟩ := ih hs'
        rw [hsent] at hstarts hmore ⊢
        rw [hcursor] at hstarts
        refine ⟨after :: starts, .page hstarts, ?_, ?_⟩
        · rw [itemsFrom_cons, hitems]
          rfl
        · rw [hmore, List.map_cons, List.reverse_cons, List.append_assoc]
          rfl

theorem Reads.isReady {stream' : EnvelopeStream} (h : v.Reads stream s items stream' s')
    (hs : s.IsReady) : s'.IsReady := by
  induction h with
  | none => exact hs
  | @item stream stream' stream'' s s' s'' replies item items hnext hserved hrest ih =>
    obtain ⟨left, cursor⟩ := stream
    cases left with
    | cons item rest =>
      cases hnext
      exact ih hs
    | nil =>
      cases cursor with
      | none => cases hnext
      | some after => exact ih (hserved.nextItem hs hnext).2.2

theorem Reading.exists_left {cursor : Option Int}
    (h : ∃ items s', v.Reading ⟨[], cursor⟩ s items s')
    (left : List (Except DatabaseError Envelope)) :
    ∃ items s', v.Reading ⟨left, cursor⟩ s items s' := by
  induction left with
  | nil => exact h
  | cons item rest ih =>
    obtain ⟨items, s', hreading⟩ := ih
    exact ⟨item :: items, s', .item (s.run_nextItem_cons item rest cursor) (.inl rfl) hreading⟩

/-- Whatever pages a stream has, it is read to its end. -/
theorem Starts.exists_reading {cursor : Option Int} (h : v.Starts turn cursor starts)
    (hs : s.IsReady) (hturn : s.sent.length = turn) :
    ∃ items s', v.Reading ⟨[], cursor⟩ s items s' := by
  induction h generalizing s with
  | stop => exact ⟨[], _, .ends (Session.run_nextItem_none { s with replies := [] }) (.inl rfl)⟩
  | @page turn after starts hrest ih =>
    subst hturn
    let reply := v.reply s.sent.length (Statement.page after).params
    let asked := { s with replies := [] }.note (.page after)
    have hnext := run_nextItem_served hs (show [reply].head? = some reply from rfl)
    have hserved : v.Serves [reply] s asked := .inr ⟨.page after, rfl, rfl⟩
    cases htake : (v.fetched s.sent.length after).take? with
    | none =>
      rw [htake] at hnext
      exact ⟨[], _, .ends hnext hserved⟩
    | some found =>
      obtain ⟨item, rest, cursor⟩ := found
      rw [htake] at hnext
      obtain rfl : cursor = _ := (EnvelopeStream.take?_eq_some htake).2
      obtain ⟨items, s', hreading⟩ := Reading.exists_left (ih (s := asked) hs rfl) rest
      exact ⟨item :: items, s', .item hnext hserved hreading⟩

/-- A stream that has been read up to some place can be read to its end from there. -/
theorem exists_reading (v : PageServer) (stream : EnvelopeStream) (hs : s.IsReady) :
    ∃ items s', v.Reading stream s items s' := by
  obtain ⟨left, cursor⟩ := stream
  have hstarts : ∃ starts, v.Starts s.sent.length cursor starts := by
    cases cursor with
    | none => exact ⟨[], .stop⟩
    | some after => exact v.exists_starts _ after
  obtain ⟨starts, hstarts⟩ := hstarts
  exact Reading.exists_left (hstarts.exists_reading hs rfl) left

theorem length_fetched (v : PageServer) (turn : Nat) (after : Int) :
    (v.fetched turn after).items.length ≤ Statement.pageSize := by
  cases hrefusal : v.refusal? turn with
  | some error =>
    rw [fetched_of_refused hrefusal]
    exact (by decide : 1 ≤ Statement.pageSize)
  | none =>
    unfold fetched
    rw [hrefusal]
    change (((v.first _ _).map (·.row)).map Envelope.ofRow).length ≤ _
    rw [List.length_map, List.length_map]
    exact List.length_take_le _ _

theorem length_itemsFrom (v : PageServer) (turn : Nat) (starts : List Int) :
    (v.itemsFrom turn starts).length ≤ Statement.pageSize * starts.length := by
  induction starts generalizing turn with
  | nil => exact Nat.zero_le _
  | cons after rest ih =>
    rw [itemsFrom_cons, List.length_append, List.length_cons, Nat.mul_succ, Nat.add_comm]
    exact Nat.add_le_add (ih _) (v.length_fetched turn after)

theorem beyond_start (v : PageServer) (after : Option EnvelopeId) :
    v.beyond (after.elim 0 EnvelopeId.value) = v.wanted after := by
  refine List.filter_congr fun e he => ?_
  cases after with
  | none =>
    obtain ⟨r, -, hr⟩ := List.mem_filterMap.1 he
    have hpos := r.positive
    rw [← id_of_envelope? hr] at hpos
    exact decide_eq_true hpos
  | some id => rfl

/-- What is read of a stream: the items of its pages, one after another. -/
structure Streamed (v : PageServer) (after : Option EnvelopeId)
    (items : List (Except DatabaseError Envelope)) (before : List Int) (last : Int) : Prop where
  pages : items = v.itemsFrom 0 (before ++ [last])
  /-- All pages but the last one have been answered and have an envelope that can be read. -/
  proper : ∀ turn start, before[turn]? = some start →
    v.refusal? turn = none ∧ found (v.first Statement.pageSize start) ≠ []
  few : before.length ≤ (v.wanted after).length
  short : items.length ≤ Statement.pageSize * (before.length + 1)
  ascending : (EnvelopeStream.read items).Pairwise (·.id < ·.id)
  /-- What can be read comes from the pages before the last one and is all that there is up to the
  start of the last one. -/
  upTo : EnvelopeStream.read items = EnvelopeStream.read (v.itemsFrom 0 before) ∧
    EnvelopeStream.read items = (v.wanted after).filter fun e => decide (e.id.value ≤ last)
  /-- If the last page has not been refused and is not one that cannot be read, it is all. -/
  complete : v.refusal? before.length = none →
    (v.first Statement.pageSize last ≠ [] → found (v.first Statement.pageSize last) ≠ []) →
      EnvelopeStream.read items = v.wanted after
  refused : ∀ error, v.refusal? before.length = some error →
    items = v.itemsFrom 0 before ++ [.error error]

theorem read_items_of_cursor (h : (v.fetched turn after).cursor = none) :
    EnvelopeStream.read (v.fetched turn after).items = [] := by
  rw [cursor_eq, Option.map_eq_none_iff] at h
  exact List.getLast?_eq_none_iff.1 h

theorem beyond_of_first_nil {limit : Nat} (hl : limit ≠ 0) (h : v.first limit after = []) :
    v.beyond after = [] := by
  have hrows := (List.take_eq_nil_iff.1 h).resolve_left hl
  refine List.filter_eq_nil_iff.2 fun e he hlt => ?_
  obtain ⟨r, hr, henv⟩ := List.mem_filterMap.1 he
  rw [id_of_envelope? henv] at hlt
  exact List.filter_eq_nil_iff.1 hrows r hr hlt

theorem Leads.streamed {after : Option EnvelopeId} {before : List Int} {last : Int}
    (h : v.Leads 0 (after.elim 0 EnvelopeId.value) before last)
    (hend : (v.fetched before.length last).cursor = none) :
    v.Streamed after (v.itemsFrom 0 (before ++ [last])) before last := by
  have hitems : v.itemsFrom 0 (before ++ [last]) =
      v.itemsFrom 0 before ++ (v.fetched before.length last).items := by
    rw [itemsFrom_append, itemsFrom_cons, Nat.zero_add]
    exact congrArg _ (List.append_nil _)
  have hread : EnvelopeStream.read (v.itemsFrom 0 (before ++ [last])) =
      EnvelopeStream.read (v.itemsFrom 0 before) := by
    rw [hitems, EnvelopeStream.read_append, read_items_of_cursor hend, List.append_nil]
  have hwanted := v.beyond_start after
  have hsplit := h.split
  rw [hwanted] at hsplit
  refine ⟨rfl, fun turn start hs => ?_, ?_, ?_, ?_, ⟨hread, ?_⟩, fun hrefusal hproper => ?_,
    fun error hrefusal => ?_⟩
  · have hproper := h.proper turn start hs
    rwa [Nat.zero_add] at hproper
  · have hfew := h.few
    rw [← hsplit, List.length_append]
    omega
  · have hlength := v.length_itemsFrom 0 (before ++ [last])
    rwa [List.length_append] at hlength
  · rw [hread, h.read_eq]
    exact (v.beyond_ascends _).sublist List.filter_sublist
  · rw [hread, h.read_eq, hwanted]
  · have hnone := read_items_of_accepted hrefusal ▸ read_items_of_cursor hend
    have hfirst : v.first Statement.pageSize last = [] :=
      Classical.byContradiction fun hne => hproper hne hnone
    rw [hread, ← hsplit, beyond_of_first_nil (by decide) hfirst, List.append_nil]
  · rw [hitems, fetched_of_refused hrefusal]

/-- A stream of the envelopes after an id, or of all, comes to an end wherever it has got to,
whatever rows there are, which of them can be read and which statements are refused. It asks for
page after page, at most once more than there are envelopes to be read. What is read has ascending
ids and consists of all readable envelopes after the id, or, when a page is refused or has nothing
that can be read, of those on the pages before it; and a refusal is one error, at the very end. -/
theorem stream_complete (v : PageServer) (after : Option EnvelopeId) (connections : Nat) :
    (∀ items stream s, v.Reads (.start after) (.new connections) items stream s →
      ∃ rest s', v.Reading stream s rest s') ∧
      ∀ items s, v.Reading (.start after) (.new connections) items s →
        ∃ before last, s.sent.reverse = (before ++ [last]).map Statement.page ∧
          v.Streamed after items before last := by
  constructor
  · intro items stream s hreads
    exact v.exists_reading stream (hreads.isReady (Session.isReady_new connections))
  · intro items s hreading
    obtain ⟨starts, hstarts, rfl, hsent⟩ := hreading.pages (Session.isReady_new connections)
    obtain ⟨before, last, rfl, hleads, hend⟩ := hstarts.leads
    refine ⟨before, last, ?_, hleads.streamed ?_⟩
    · rw [hsent]
      exact (congrArg List.reverse (List.append_nil _)).trans (List.reverse_reverse _)
    · have hzero : 0 + before.length = before.length := Nat.zero_add _
      exact hzero ▸ hend

namespace Gap

def row (id : Int) (payload : Cell) : Row :=
  ⟨[("id", .int8 id), ("source", .text "agent"), ("event_type", .text "host.heartbeat"),
    ("payload", payload), ("received_at", .timestamptz ⟨0, 0⟩)]⟩

def stored (id : Int) (payload : Cell) (h : 1 ≤ id) : StoredRow where
  id
  row := row id payload
  positive := h
  readsId _ he := Envelope.id_of_ofRow rfl he

def server : PageServer where
  rows := [stored 1 (.jsonb .null) (by decide), stored 2 .null (by decide),
    stored 4 (.jsonb .null) (by decide)]
  ascending := by decide
  refusal? _ := none

theorem found_of_first {after : Int} (h : server.first Statement.pageSize after ≠ []) :
    found (server.first Statement.pageSize after) ≠ [] := by
  obtain ⟨r, hr⟩ := List.exists_mem_of_ne_nil _ h
  obtain ⟨hm, hlt⟩ := List.mem_filter.1 (List.mem_of_mem_take hr)
  have hle : ∀ r ∈ server.rows, r.id ≤ 4 := by simp [server, stored]
  have hlast : after < 4 := Int.lt_of_lt_of_le (of_decide_eq_true hlt) (hle r hm)
  have hfirst : stored 4 (.jsonb .null) (by decide) ∈ server.first Statement.pageSize after := by
    unfold PageServer.first
    rw [List.take_of_length_le (Nat.le_trans (List.length_filter_le _ _) (by decide))]
    exact List.mem_filter.2 ⟨by simp [server], decide_eq_true hlast⟩
  have hread : (stored 4 (.jsonb .null) (by decide)).envelope?.isSome = true := by decide +kernel
  obtain ⟨e, he⟩ := Option.isSome_iff_exists.1 hread
  exact List.ne_nil_of_mem (List.mem_filterMap.2 ⟨_, hfirst, he⟩)

end Gap

/-- The row in the middle cannot be read, and the stream goes on. -/
theorem stream_complete_gap :
    ∃ items s', Gap.server.Reading (.start none) (.new 1) items s' ∧
      (EnvelopeStream.read items).map (·.id.value) = [1, 4] := by
  obtain ⟨hends, hall⟩ := stream_complete Gap.server none 1
  obtain ⟨items, s', hreading⟩ := hends [] _ _ (.none _ _)
  obtain ⟨before, last, -, hstreamed⟩ := hall items s' hreading
  refine ⟨items, s', hreading, ?_⟩
  rw [hstreamed.complete rfl Gap.found_of_first]
  decide +kernel

end PageServer

end AgentFacts
