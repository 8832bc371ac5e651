import AgentFacts.Database.Session
import AgentFacts.EventLog.Error

namespace AgentFacts

structure Migration where
  version : Int
  script : String
deriving DecidableEq

/-- A migration that was applied before. -/
structure AppliedMigration where
  version : Int
  isIntact : Bool
deriving DecidableEq

namespace Migration

def createEnvelopes : Migration where
  version := 1
  script := "-- Append-only log of every collected envelope.
CREATE TABLE IF NOT EXISTS envelopes (
    id          BIGSERIAL PRIMARY KEY,
    source      TEXT        NOT NULL,
    event_type  TEXT        NOT NULL,
    payload     JSONB       NOT NULL,
    received_at TIMESTAMPTZ NOT NULL DEFAULT NOW()
);

CREATE INDEX IF NOT EXISTS idx_envelopes_source_type ON envelopes (source, event_type, id);
CREATE INDEX IF NOT EXISTS idx_envelopes_received_at ON envelopes (received_at);
"

def createReadModels : Migration where
  version := 2
  script := "-- Per (source, event type) projection outcome.
CREATE TABLE IF NOT EXISTS subscriptions (
    source            TEXT        NOT NULL,
    event_type        TEXT        NOT NULL,
    last_envelope_id  BIGINT,
    last_processed_at TIMESTAMPTZ NOT NULL DEFAULT NOW(),
    last_outcome      TEXT        NOT NULL DEFAULT 'success',
    failure_reason    TEXT,
    CONSTRAINT subscriptions_pkey PRIMARY KEY (source, event_type),
    CONSTRAINT subscriptions_outcome_check CHECK (last_outcome IN ('success', 'failure'))
);

-- Owned by the host projector.
CREATE TABLE IF NOT EXISTS hosts (
    agent_id        TEXT PRIMARY KEY,
    hostname        TEXT        NOT NULL,
    ip_addresses    JSONB       NOT NULL DEFAULT '[]',
    os_version      TEXT        NOT NULL DEFAULT '',
    agent_version   TEXT        NOT NULL DEFAULT '',
    cpu_count       INTEGER     NOT NULL DEFAULT 0,
    socket_count    INTEGER     NOT NULL DEFAULT 0,
    total_memory_mb BIGINT      NOT NULL DEFAULT 0,
    updated_at      TIMESTAMPTZ NOT NULL
);

-- Owned by the cluster projector.
CREATE TABLE IF NOT EXISTS clusters (
    id               TEXT PRIMARY KEY,
    name             TEXT        NOT NULL,
    cluster_type     TEXT        NOT NULL,
    sid              TEXT,
    nodes            JSONB       NOT NULL DEFAULT '[]',
    resources_number INTEGER     NOT NULL DEFAULT 0,
    hosts_number     INTEGER     NOT NULL DEFAULT 0,
    reported_by      TEXT        NOT NULL,
    updated_at       TIMESTAMPTZ NOT NULL
);

-- Owned by the SAP system projector.
CREATE TABLE IF NOT EXISTS sap_system_instances (
    agent_id           TEXT        NOT NULL,
    sid                TEXT        NOT NULL,
    instance_number    TEXT        NOT NULL,
    system_type        TEXT        NOT NULL,
    features           TEXT        NOT NULL DEFAULT '',
    sap_hostname       TEXT        NOT NULL DEFAULT '',
    system_replication TEXT,
    updated_at         TIMESTAMPTZ NOT NULL,
    PRIMARY KEY (agent_id, sid, instance_number)
);

-- Owned by the SLES subscription projector.
CREATE TABLE IF NOT EXISTS sles_subscriptions (
    agent_id   TEXT        NOT NULL,
    identifier TEXT        NOT NULL,
    version    TEXT        NOT NULL DEFAULT '',
    arch       TEXT        NOT NULL DEFAULT '',
    status     TEXT        NOT NULL DEFAULT '',
    expires_at TIMESTAMPTZ,
    updated_at TIMESTAMPTZ NOT NULL,
    PRIMARY KEY (agent_id, identifier)
);

-- Owned by the checks result projector.
CREATE TABLE IF NOT EXISTS checks_results (
    group_id    TEXT PRIMARY KEY,
    health      TEXT        NOT NULL,
    results     JSONB       NOT NULL DEFAULT '[]',
    reported_by TEXT        NOT NULL,
    updated_at  TIMESTAMPTZ NOT NULL
);
"

def widenCounts : Migration where
  version := 3
  script := "-- Unsigned 32-bit counts do not fit INTEGER.
ALTER TABLE hosts
    ALTER COLUMN cpu_count TYPE BIGINT,
    ALTER COLUMN socket_count TYPE BIGINT;

ALTER TABLE clusters
    ALTER COLUMN resources_number TYPE BIGINT,
    ALTER COLUMN hosts_number TYPE BIGINT;

-- Written by host heartbeats only; rediscovery keeps it.
ALTER TABLE hosts ADD COLUMN IF NOT EXISTS last_heartbeat_at TIMESTAMPTZ;
"

def all : List Migration :=
  [createEnvelopes, createReadModels, widenCounts]

def run (m : Migration) : Session.Step MigrationError Unit :=
  Session.inOwnTransaction .whileExecuting <|
    Session.withError (.executing m.version) do
      let _ ← Session.send (.script m.script)

/-- Applies a migration unless it was applied before; then its script must be the same. -/
def apply (applied : List AppliedMigration) (m : Migration) : Session.Step MigrationError Unit :=
  match applied.find? (·.version == m.version) with
  | none => m.run
  | some earlier => if earlier.isIntact then return else throw (.modified m.version)

/-- The least version that was applied and is not known any more. -/
def unknownVersion? (applied : List AppliedMigration) : Option Int :=
  ((applied.map (·.version)).filter fun version => !(all.map (·.version)).contains version).min?

/-- Applies every migration that has not been applied, each in a transaction of its own, in the
order of their versions. Nothing is done while one of an earlier run is unfinished or unknown. -/
def applyAll (applied : List AppliedMigration) (dirty : Option Int) :
    Session.Step MigrationError Unit := do
  Session.withError .whileExecuting Session.connect
  if let some version := dirty then throw (.dirty version)
  if let some version := unknownVersion? applied then throw (.missing version)
  all.forM (apply applied)

end Migration

end AgentFacts
