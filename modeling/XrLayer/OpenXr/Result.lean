/-!
Result codes of an OpenXR runtime and their names.

Codes from zero up are successes, negative codes failures. A code is written by its
name without the `XR_` prefix, or as its decimal number when it has none. Extension codes
are numbered from 1000000000 plus a thousand times the extension's number less one, and
their names end in the tag of the vendor that defined them; a few codes of extensions
kept the `ERROR_` prefix although they are successes by number.
-/
namespace XrLayer.OpenXr

def resultNames : List (Int × String) :=
  [(0, "SUCCESS"), (1, "TIMEOUT_EXPIRED"), (3, "SESSION_LOSS_PENDING"), (4, "EVENT_UNAVAILABLE"),
   (7, "SPACE_BOUNDS_UNAVAILABLE"), (8, "SESSION_NOT_FOCUSED"), (9, "FRAME_DISCARDED"),
   (-1, "ERROR_VALIDATION_FAILURE"), (-2, "ERROR_RUNTIME_FAILURE"), (-3, "ERROR_OUT_OF_MEMORY"),
   (-4, "ERROR_API_VERSION_UNSUPPORTED"), (-6, "ERROR_INITIALIZATION_FAILED"),
   (-7, "ERROR_FUNCTION_UNSUPPORTED"), (-8, "ERROR_FEATURE_UNSUPPORTED"),
   (-9, "ERROR_EXTENSION_NOT_PRESENT"), (-10, "ERROR_LIMIT_REACHED"),
   (-11, "ERROR_SIZE_INSUFFICIENT"), (-12, "ERROR_HANDLE_INVALID"),
   (-13, "ERROR_INSTANCE_LOST"), (-14, "ERROR_SESSION_RUNNING"),
   (-16, "ERROR_SESSION_NOT_RUNNING"), (-17, "ERROR_SESSION_LOST"),
   (-18, "ERROR_SYSTEM_INVALID"), (-19, "ERROR_PATH_INVALID"),
   (-20, "ERROR_PATH_COUNT_EXCEEDED"), (-21, "ERROR_PATH_FORMAT_INVALID"),
   (-22, "ERROR_PATH_UNSUPPORTED"), (-23, "ERROR_LAYER_INVALID"),
   (-24, "ERROR_LAYER_LIMIT_EXCEEDED"), (-25, "ERROR_SWAPCHAIN_RECT_INVALID"),
   (-26, "ERROR_SWAPCHAIN_FORMAT_UNSUPPORTED"), (-27, "ERROR_ACTION_TYPE_MISMATCH"),
   (-28, "ERROR_SESSION_NOT_READY"), (-29, "ERROR_SESSION_NOT_STOPPING"),
   (-30, "ERROR_TIME_INVALID"),
   (-31, "ERROR_REFERENCE_SPACE_UNSUPPORTED"), (-32, "ERROR_FILE_ACCESS_ERROR"),
   (-33, "ERROR_FILE_CONTENTS_INVALID"), (-34, "ERROR_FORM_FACTOR_UNSUPPORTED"),
   (-35, "ERROR_FORM_FACTOR_UNAVAILABLE"), (-36, "ERROR_API_LAYER_NOT_PRESENT"),
   (-37, "ERROR_CALL_ORDER_INVALID"), (-38, "ERROR_GRAPHICS_DEVICE_INVALID"),
   (-39, "ERROR_POSE_INVALID"), (-40, "ERROR_INDEX_OUT_OF_RANGE"),
   (-41, "ERROR_VIEW_CONFIGURATION_TYPE_UNSUPPORTED"),
   (-42, "ERROR_ENVIRONMENT_BLEND_MODE_UNSUPPORTED"),
   (-44, "ERROR_NAME_DUPLICATED"), (-45, "ERROR_NAME_INVALID"),
   (-46, "ERROR_ACTIONSET_NOT_ATTACHED"),
   (-47, "ERROR_ACTIONSETS_ALREADY_ATTACHED"), (-48, "ERROR_LOCALIZED_NAME_DUPLICATED"),
   (-49, "ERROR_LOCALIZED_NAME_INVALID"), (-50, "ERROR_GRAPHICS_REQUIREMENTS_CALL_MISSING"),
   (-51, "ERROR_RUNTIME_UNAVAILABLE")]

/-- The named result codes of extensions, and of the core codes that came after them. -/
def extensionResultNames : List (Int × String) :=
  -- the Android thread settings extension
  [(-1000003000, "ERROR_ANDROID_THREAD_SETTINGS_ID_INVALID_KHR"),
   (-1000003001, "ERROR_ANDROID_THREAD_SETTINGS_FAILURE_KHR"),
   -- spatial anchors, secondary views, controller models and reprojection
   (-1000039001, "ERROR_CREATE_SPATIAL_ANCHOR_FAILED_MSFT"),
   (-1000053000, "ERROR_SECONDARY_VIEW_CONFIGURATION_TYPE_NOT_ENABLED_MSFT"),
   (-1000055000, "ERROR_CONTROLLER_MODEL_KEY_INVALID_MSFT"),
   (-1000066000, "ERROR_REPROJECTION_MODE_UNSUPPORTED_MSFT"),
   -- scene understanding
   (-1000097000, "ERROR_COMPUTE_NEW_SCENE_NOT_COMPLETED_MSFT"),
   (-1000097001, "ERROR_SCENE_COMPONENT_ID_INVALID_MSFT"),
   (-1000097002, "ERROR_SCENE_COMPONENT_TYPE_MISMATCH_MSFT"),
   (-1000097003, "ERROR_SCENE_MESH_BUFFER_ID_INVALID_MSFT"),
   (-1000097004, "ERROR_SCENE_COMPUTE_FEATURE_INCOMPATIBLE_MSFT"),
   (-1000097005, "ERROR_SCENE_COMPUTE_CONSISTENCY_MISMATCH_MSFT"),
   -- display refresh rate, color space and spatial entity components
   (-1000101000, "ERROR_DISPLAY_REFRESH_RATE_UNSUPPORTED_FB"),
   (-1000108000, "ERROR_COLOR_SPACE_UNSUPPORTED_FB"),
   (-1000113000, "ERROR_SPACE_COMPONENT_NOT_SUPPORTED_FB"),
   (-1000113001, "ERROR_SPACE_COMPONENT_NOT_ENABLED_FB"),
   (-1000113002, "ERROR_SPACE_COMPONENT_STATUS_PENDING_FB"),
   (-1000113003, "ERROR_SPACE_COMPONENT_STATUS_ALREADY_SET_FB"),
   -- passthrough and render models
   (-1000118000, "ERROR_UNEXPECTED_STATE_PASSTHROUGH_FB"),
   (-1000118001, "ERROR_FEATURE_ALREADY_CREATED_PASSTHROUGH_FB"),
   (-1000118002, "ERROR_FEATURE_REQUIRED_PASSTHROUGH_FB"),
   (-1000118003, "ERROR_NOT_PERMITTED_PASSTHROUGH_FB"),
   (-1000118004, "ERROR_INSUFFICIENT_RESOURCES_PASSTHROUGH_FB"),
   (-1000118050, "ERROR_UNKNOWN_PASSTHROUGH_FB"),
   (-1000119000, "ERROR_RENDER_MODEL_KEY_INVALID_FB"),
   (1000119020, "RENDER_MODEL_UNAVAILABLE_FB"),
   -- marker tracking
   (-1000124000, "ERROR_MARKER_NOT_TRACKED_VARJO"),
   (-1000124001, "ERROR_MARKER_ID_INVALID_VARJO"),
   (-1000138000, "ERROR_MARKER_DETECTOR_PERMISSION_DENIED_ML"),
   (-1000138001, "ERROR_MARKER_DETECTOR_LOCATE_FAILED_ML"),
   (-1000138002, "ERROR_MARKER_DETECTOR_INVALID_DATA_QUERY_ML"),
   (-1000138003, "ERROR_MARKER_DETECTOR_INVALID_CREATE_INFO_ML"),
   (-1000138004, "ERROR_MARKER_INVALID_ML"),
   -- localization maps and spatial anchors
   (-1000139000, "ERROR_LOCALIZATION_MAP_INCOMPATIBLE_ML"),
   (-1000139001, "ERROR_LOCALIZATION_MAP_UNAVAILABLE_ML"),
   (-1000139002, "ERROR_LOCALIZATION_MAP_FAIL_ML"),
   (-1000139003, "ERROR_LOCALIZATION_MAP_IMPORT_EXPORT_PERMISSION_DENIED_ML"),
   (-1000139004, "ERROR_LOCALIZATION_MAP_PERMISSION_DENIED_ML"),
   (-1000139005, "ERROR_LOCALIZATION_MAP_ALREADY_EXISTS_ML"),
   (-1000139006, "ERROR_LOCALIZATION_MAP_CANNOT_EXPORT_CLOUD_MAP_ML"),
   (-1000140000, "ERROR_SPATIAL_ANCHORS_PERMISSION_DENIED_ML"),
   (-1000140001, "ERROR_SPATIAL_ANCHORS_NOT_LOCALIZED_ML"),
   (-1000140002, "ERROR_SPATIAL_ANCHORS_OUT_OF_MAP_BOUNDS_ML"),
   (-1000140003, "ERROR_SPATIAL_ANCHORS_SPACE_NOT_LOCATABLE_ML"),
   (-1000141000, "ERROR_SPATIAL_ANCHORS_ANCHOR_NOT_FOUND_ML"),
   (-1000142001, "ERROR_SPATIAL_ANCHOR_NAME_NOT_FOUND_MSFT"),
   (-1000142002, "ERROR_SPATIAL_ANCHOR_NAME_INVALID_MSFT"),
   -- scene markers and shared spaces
   (1000147000, "SCENE_MARKER_DATA_NOT_STRING_MSFT"),
   (-1000169000, "ERROR_SPACE_MAPPING_INSUFFICIENT_FB"),
   (-1000169001, "ERROR_SPACE_LOCALIZATION_FAILED_FB"),
   (-1000169002, "ERROR_SPACE_NETWORK_TIMEOUT_FB"),
   (-1000169003, "ERROR_SPACE_NETWORK_REQUEST_FAILED_FB"),
   (-1000169004, "ERROR_SPACE_CLOUD_STORAGE_DISABLED_FB"),
   (-1000259000, "ERROR_SPACE_INSUFFICIENT_RESOURCES_META"),
   (-1000259001, "ERROR_SPACE_STORAGE_AT_CAPACITY_META"),
   (-1000259002, "ERROR_SPACE_INSUFFICIENT_VIEW_META"),
   (-1000259003, "ERROR_SPACE_PERMISSION_INSUFFICIENT_META"),
   (-1000259004, "ERROR_SPACE_RATE_LIMITED_META"),
   (-1000259005, "ERROR_SPACE_TOO_DARK_META"),
   (-1000259006, "ERROR_SPACE_TOO_BRIGHT_META"),
   -- passthrough color tables, environment depth and render model assets
   (-1000266000, "ERROR_PASSTHROUGH_COLOR_LUT_BUFFER_SIZE_MISMATCH_META"),
   (1000291000, "ENVIRONMENT_DEPTH_NOT_AVAILABLE_META"),
   (-1000300000, "ERROR_RENDER_MODEL_ID_INVALID_EXT"),
   (-1000300001, "ERROR_RENDER_MODEL_ASSET_UNAVAILABLE_EXT"),
   (-1000300002, "ERROR_RENDER_MODEL_GLTF_EXTENSION_REQUIRED_EXT"),
   (-1000301000, "ERROR_NOT_INTERACTION_RENDER_MODEL_EXT"),
   (-1000306000, "ERROR_HINT_ALREADY_SET_QCOM"),
   (-1000319000, "ERROR_NOT_AN_ANCHOR_HTC"),
   -- spatial sensing and anchor sharing
   (-1000389000, "ERROR_SPATIAL_ENTITY_ID_INVALID_BD"),
   (-1000389001, "ERROR_SPATIAL_SENSING_SERVICE_UNAVAILABLE_BD"),
   (-1000389002, "ERROR_ANCHOR_NOT_SUPPORTED_FOR_ENTITY_BD"),
   (-1000390000, "ERROR_SPATIAL_ANCHOR_NOT_FOUND_BD"),
   (-1000391000, "ERROR_SPATIAL_ANCHOR_SHARING_NETWORK_TIMEOUT_BD"),
   (-1000391001, "ERROR_SPATIAL_ANCHOR_SHARING_AUTHENTICATION_FAILURE_BD"),
   (-1000391002, "ERROR_SPATIAL_ANCHOR_SHARING_NETWORK_FAILURE_BD"),
   (-1000391003, "ERROR_SPATIAL_ANCHOR_SHARING_LOCALIZATION_FAIL_BD"),
   (-1000391004, "ERROR_SPATIAL_ANCHOR_SHARING_MAP_INSUFFICIENT_BD"),
   (-1000392000, "ERROR_SCENE_CAPTURE_FAILURE_BD"),
   -- plane detection, trackables, persisted anchors and futures
   (-1000429000, "ERROR_SPACE_NOT_LOCATABLE_EXT"),
   (-1000429001, "ERROR_PLANE_DETECTION_PERMISSION_DENIED_EXT"),
   (-1000455000, "ERROR_MISMATCHING_TRACKABLE_TYPE_ANDROID"),
   (-1000455001, "ERROR_TRACKABLE_TYPE_NOT_SUPPORTED_ANDROID"),
   (-1000457000, "ERROR_ANCHOR_ID_NOT_FOUND_ANDROID"),
   (-1000457001, "ERROR_ANCHOR_ALREADY_PERSISTED_ANDROID"),
   (-1000457002, "ERROR_ANCHOR_NOT_TRACKING_ANDROID"),
   (-1000457003, "ERROR_PERSISTED_DATA_NOT_READY_ANDROID"),
   (-1000458000, "ERROR_SERVICE_NOT_READY_ANDROID"),
   (-1000469001, "ERROR_FUTURE_PENDING_EXT"),
   (-1000469002, "ERROR_FUTURE_INVALID_EXT"),
   -- notifications, world meshes, facial expressions, boundaries and colocation
   (-1000473000, "ERROR_SYSTEM_NOTIFICATION_PERMISSION_DENIED_ML"),
   (-1000473001, "ERROR_SYSTEM_NOTIFICATION_INCOMPATIBLE_SKU_ML"),
   (-1000474000, "ERROR_WORLD_MESH_DETECTOR_PERMISSION_DENIED_ML"),
   (-1000474001, "ERROR_WORLD_MESH_DETECTOR_SPACE_NOT_LOCATABLE_ML"),
   (1000482000, "ERROR_FACIAL_EXPRESSION_PERMISSION_DENIED_ML"),
   (1000528000, "BOUNDARY_VISIBILITY_SUPPRESSION_NOT_ALLOWED_META"),
   (-1000571001, "ERROR_COLOCATION_DISCOVERY_NETWORK_FAILED_META"),
   (-1000571002, "ERROR_COLOCATION_DISCOVERY_NO_DISCOVERY_METHOD_META"),
   (1000571003, "COLOCATION_DISCOVERY_ALREADY_ADVERTISING_META"),
   (1000571004, "COLOCATION_DISCOVERY_ALREADY_DISCOVERING_META"),
   (-1000572002, "ERROR_SPACE_GROUP_NOT_FOUND_META"),
   -- anchor ownership, permissions and spatial entities
   (-1000701000, "ERROR_ANCHOR_NOT_OWNED_BY_CALLER_ANDROID"),
   (-1000710000, "ERROR_PERMISSION_INSUFFICIENT"),
   (-1000710001, "ERROR_EXTENSION_DEPENDENCY_NOT_ENABLED"),
   (-1000740001, "ERROR_SPATIAL_CAPABILITY_UNSUPPORTED_EXT"),
   (-1000740002, "ERROR_SPATIAL_ENTITY_ID_INVALID_EXT"),
   (-1000740003, "ERROR_SPATIAL_BUFFER_ID_INVALID_EXT"),
   (-1000740004, "ERROR_SPATIAL_COMPONENT_UNSUPPORTED_FOR_CAPABILITY_EXT"),
   (-1000740005, "ERROR_SPATIAL_CAPABILITY_CONFIGURATION_INVALID_EXT"),
   (-1000740006, "ERROR_SPATIAL_COMPONENT_NOT_ENABLED_EXT"),
   (-1000763001, "ERROR_SPATIAL_PERSISTENCE_SCOPE_UNSUPPORTED_EXT"),
   (-1000781001, "ERROR_SPATIAL_PERSISTENCE_SCOPE_INCOMPATIBLE_EXT")]

def resultName (code : Int) : String :=
  match resultNames.lookup code with
  | some n => n
  | none => (extensionResultNames.lookup code).getD (toString code)

end XrLayer.OpenXr
