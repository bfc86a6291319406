/-!
# Store parameter keys

The names under which a connection to the store is configured, and the names of the
indexes that the store keeps.
-/

namespace Cadence.Keys

/-- Host name of the store. -/
def hostname : String := "redisHostname"

/-- Port of the store, in decimal. -/
def port : String := "redisPort"

/-- Whether the connection uses TLS: `true` or `false`. -/
def ssl : String := "redisSsl"

/-- Connection timeout in milliseconds, in decimal. -/
def timeout : String := "redisTimeout"

/-- Password of the store, present only when one is set. -/
def password : String := "redisPassword"

/-- `true` when the store is clustered, absent otherwise. -/
def clustered : String := "redisClustered"

/-- The database that holds the records. -/
def dbName : String := "dbName"

/-- The identifier field of the records. -/
def idName : String := "idName"

/-- The fourteen indexes of the store, in declaration order. -/
def indexNames : List String :=
  ["reportJobIdIndex", "timestampIndex", "frequencyIndex", "deletedIdIndex", "clusterIdIndex",
    "queryIdIndex", "jobIdIndex", "jobClusterIdIndex", "jobStatusIndex", "emailIdIndex",
    "emailIdReportIndex", "emailIdTriggerIndex", "emailIdJobIndex", "jobQueue"]

end Cadence.Keys
