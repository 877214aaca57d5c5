import VulnLoom.AgentRunBounds
import VulnLoom.AssetDiscoveryResume
import VulnLoom.AttackCreation
import VulnLoom.CampaignResume
import VulnLoom.CandidateFingerprints
import VulnLoom.CustodyAlarms
import VulnLoom.EgressRevocation
import VulnLoom.EndpointReconAccounting
import VulnLoom.GraphQlDocuments
import VulnLoom.ModelRouting
import VulnLoom.OpenAiChatDecode
import VulnLoom.OpenApiPromotion
import VulnLoom.PolicySoundness
import VulnLoom.PromotionSystem
import VulnLoom.PythonFunctions
import VulnLoom.PythonTracer
import VulnLoom.RecommendationSelection
import VulnLoom.RedactionAgreement
import VulnLoom.RedactionBlocks
import VulnLoom.RedactionSecrets
import VulnLoom.ReplanReplay
import VulnLoom.ReviewMasking
import VulnLoom.ScheduleGrid
import VulnLoom.SeedUrls
import VulnLoom.SourceExecutionRuns
import VulnLoom.SourceHuntIsolation
import VulnLoom.SourceNumbering
import VulnLoom.ToolHandoffDispatch
import VulnLoom.CanonicalText
import VulnLoom.LeakageQualification
import VulnLoom.SinkSites
import VulnLoom.ValidationRuns
import VulnLoom.ReportDrafting
import VulnLoom.ReportRevisions
import VulnLoom.SurfaceDrift
import VulnLoom.SurfaceSettlement
import VulnLoom.TracerTermination
