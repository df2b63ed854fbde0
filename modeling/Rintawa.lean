import Rintawa.Artifacts.CanonicalTexts
import Rintawa.Dev.Watch
import Rintawa.ExtensionEngine.ActivationCycles
import Rintawa.ExtensionEngine.ContributionOwners
import Rintawa.ExtensionEngine.EngineAgreement
import Rintawa.ExtensionEngine.GrantAuthority
import Rintawa.ExtensionEngine.LoadAtomicity
import Rintawa.ExtensionEngine.Reentrancy
import Rintawa.Host.ActivationOutcomes
import Rintawa.Host.CatalogRuns
import Rintawa.Host.CompositionRuns
import Rintawa.Host.DeferredPumps
import Rintawa.Host.EffectPumpCall
import Rintawa.Host.PlatformContracts
import Rintawa.Host.RuntimeSignals
import Rintawa.Host.UserContentRuns
import Rintawa.Host.Wakeups
import Rintawa.Storage.CommandDigests
import Rintawa.Storage.CursorPaging
import Rintawa.Storage.ReadBack
import Rintawa.Storage.SchemaRoundTrip
import Rintawa.UiRuntime.ActionRouting
import Rintawa.WasmRuntime.ChunkedUploads
import Rintawa.WasmRuntime.SafeFetches
import Rintawa.WorldRuntime.Authority
import Rintawa.WorldRuntime.ProviderReads
import Rintawa.WorldRuntime.WorkerRuns
