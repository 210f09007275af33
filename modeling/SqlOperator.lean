import SqlOperator.Api.Response
import SqlOperator.Main
import SqlOperator.Metrics
import SqlOperator.Proofs.Credentials.GeneratedPasswords
import SqlOperator.Proofs.Credentials.Injection
import SqlOperator.Proofs.Credentials.Noninterference
import SqlOperator.Proofs.Credentials.RoundTrips
import SqlOperator.Proofs.Credentials.UsablePasswords
import SqlOperator.Proofs.Credentials.Variables
import SqlOperator.Proofs.Ownership.Adoption
import SqlOperator.Proofs.Ownership.Contention
import SqlOperator.Proofs.Reconcile.Commuting
import SqlOperator.Proofs.Reconcile.DecisionTable
import SqlOperator.Proofs.Reconcile.EgressOrder
import SqlOperator.Proofs.Reconcile.Idempotent
import SqlOperator.Proofs.Reconcile.Requeueing
import SqlOperator.Proofs.Store.Histories
import SqlOperator.Proofs.Text.ByteOffsets
import SqlOperator.Proofs.Upsert.Renaming
import SqlOperator.Proofs.Keys.Bundles
import SqlOperator.Proofs.Json.Records
import SqlOperator.Proofs.Sql.Encodings
import SqlOperator.Proofs.Keys.KeyForms
import SqlOperator.Proofs.Credentials.CertificateFiles
import SqlOperator.Proofs.Ownership.Succession
