import CodexOfPower.EffectPersistence
import CodexOfPower.SwapAtomicity
import CodexOfPower.OwnSessions
import CodexOfPower.Playthroughs
import CodexOfPower.Conservation
import CodexOfPower.HistoryOrder
import CodexOfPower.Accounting
import CodexOfPower.QuickListCache
import CodexOfPower.MigrationUndo
import CodexOfPower.MigrationRuns
import CodexOfPower.RollbackAgreement
import CodexOfPower.ResyncConvergence
import CodexOfPower.DerivedTotals
import CodexOfPower.MigrationTotals
import CodexOfPower.ResyncRequests
import CodexOfPower.SyncLedger
import CodexOfPower.SettingsAgreement
import CodexOfPower.SettingsRecovery
import CodexOfPower.FormIdRequests
import CodexOfPower.RegisterKeys
import CodexOfPower.UndoIdentity
import CodexOfPower.SafeRemoval
import CodexOfPower.InventoryPages
import CodexOfPower.VirtualTables
import CodexOfPower.Events
import CodexOfPower.SettingsRoundTrip
import CodexOfPower.FocusDelay
import CodexOfPower.RefreshRecovery
import CodexOfPower.RegisterBatchPanel
import CodexOfPower.PredictedGain
import CodexOfPower.UndoList
import CodexOfPower.ItemTrade
import CodexOfPower.RegistrationMaps
import CodexOfPower.QuestWatch
import CodexOfPower.BuildPanel
import CodexOfPower.PanelSessions
import CodexOfPower.TogglePolicy
