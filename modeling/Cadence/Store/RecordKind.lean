/-!
# Kinds of stored records

The store keeps seven kinds of records. Each kind has a fixed ordinal, a name, the database
that holds its records and the name of their identifier field; several kinds share the job
database.
-/

namespace Cadence

/-- A kind of record in the store. -/
inductive RecordKind where
  | anomalyReport | deletedJobMetadata | druidCluster | jobMetadata | emailMetadata
  | jsonDumper | jobScheduler
  deriving DecidableEq, Repr

namespace RecordKind

/-- Every kind, in ordinal order. -/
def all : List RecordKind :=
  [anomalyReport, deletedJobMetadata, druidCluster, jobMetadata, emailMetadata, jsonDumper,
    jobScheduler]

/-- The fixed ordinal of the kind, from 0. -/
def ordinal : RecordKind → Nat
  | anomalyReport => 0
  | deletedJobMetadata => 1
  | druidCluster => 2
  | jobMetadata => 3
  | emailMetadata => 4
  | jsonDumper => 5
  | jobScheduler => 6

/-- The kind with ordinal `n`, if there is one. -/
def ofOrdinal? (n : Nat) : Option RecordKind := all[n]?

/-- The lowercase name. -/
def name : RecordKind → String
  | anomalyReport => "anomaly_report"
  | deletedJobMetadata => "deleted_job_metadata"
  | druidCluster => "druid_cluster"
  | jobMetadata => "job_metadata"
  | emailMetadata => "email_metadata"
  | jsonDumper => "json_dumper"
  | jobScheduler => "job_scheduler"

/-- The database that holds records of this kind. -/
def databaseName : RecordKind → String
  | anomalyReport => "Reports"
  | deletedJobMetadata => "DeletedJobs"
  | druidCluster => "DruidClusters"
  | emailMetadata => "Emails"
  | jobMetadata | jsonDumper | jobScheduler => "Jobs"

/-- The identifier field of records of this kind. -/
def idName : RecordKind → String
  | anomalyReport => "ReportId"
  | deletedJobMetadata => "DeletedJobId"
  | druidCluster => "ClusterId"
  | emailMetadata => "EmailId"
  | jobMetadata | jsonDumper | jobScheduler => "JobId"

end RecordKind

end Cadence
