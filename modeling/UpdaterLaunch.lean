import UpdaterLaunch.Main
import UpdaterLaunch.Agenda.Rota
import UpdaterLaunch.Host.Request
import UpdaterLaunch.Written
import UpdaterLaunch.Text.Alphanumeric
import UpdaterLaunch.Text.Bytes
import UpdaterLaunch.Text.Pattern
import UpdaterLaunch.Text.Space
import UpdaterLaunch.Proofs.AttemptConservation
import UpdaterLaunch.Proofs.BudgetAccounting
import UpdaterLaunch.Proofs.EventDelivery
import UpdaterLaunch.Proofs.DecisionCourses
import UpdaterLaunch.Proofs.PendingRetries
import UpdaterLaunch.Proofs.AttemptPassages
import UpdaterLaunch.Proofs.RunPassages
import UpdaterLaunch.Proofs.DecisionRefinement
import UpdaterLaunch.Proofs.ScriptedAttempts
import UpdaterLaunch.Proofs.DisciplinedClient
import UpdaterLaunch.Proofs.LoopRefinement
import UpdaterLaunch.Proofs.RotaHistories
import UpdaterLaunch.Proofs.AttemptQuiescence
import UpdaterLaunch.Proofs.SessionTraces
import UpdaterLaunch.Proofs.LastingInvariants
import UpdaterLaunch.Proofs.SoleUsers
import UpdaterLaunch.Proofs.FinishedSessions
import UpdaterLaunch.Proofs.RelievedAgendas
import UpdaterLaunch.Proofs.RelievedWorlds
import UpdaterLaunch.Proofs.RelievedRuns
import UpdaterLaunch.Proofs.Leftovers
import UpdaterLaunch.Proofs.DroppedCoordinators
import UpdaterLaunch.Proofs.TerminalFailures
import UpdaterLaunch.Proofs.AwaitedAttempts
import UpdaterLaunch.Proofs.DryRuns
import UpdaterLaunch.Proofs.RetryShares
import UpdaterLaunch.Proofs.ProvisioningReadiness
import UpdaterLaunch.Proofs.WrittenForms
import UpdaterLaunch.Proofs.TargetWrites
import UpdaterLaunch.Proofs.ConfigOverlays
import UpdaterLaunch.Proofs.QueueRecords
import UpdaterLaunch.Proofs.ObserverLists
