/-!
# Pictures in five tones of skin

## Main definitions

* `Pictograph.toned` — pictures with their names, a star standing for the tone.
-/

namespace SwitchTrace.Pictograph

/-- One picture for each text: the numbers of its characters in hexadecimal, and its names. A star
stands for the character of a tone and for the name of the tone. -/
def toned : List String :=
  ["261D-* index_pointing_up_*_skin_tone", "26F9-* person_bouncing_ball_*_skin_tone",
  "26F9-*-200D-2640-FE0F woman_bouncing_ball_*_skin_tone",
  "26F9-*-200D-2642-FE0F man_bouncing_ball_*_skin_tone", "270A-* raised_fist_*_skin_tone",
  "270B-* raised_hand_*_skin_tone", "270C-* victory_hand_*_skin_tone",
  "270D-* writing_hand_*_skin_tone", "1F385-* santa_claus_*_skin_tone",
  "1F3C2-* snowboarder_*_skin_tone", "1F3C3-* person_running_*_skin_tone",
  "1F3C3-*-200D-2640-FE0F woman_running_*_skin_tone",
  "1F3C3-*-200D-2642-FE0F man_running_*_skin_tone", "1F3C4-* person_surfing_*_skin_tone",
  "1F3C4-*-200D-2640-FE0F woman_surfing_*_skin_tone",
  "1F3C4-*-200D-2642-FE0F man_surfing_*_skin_tone", "1F3C7-* horse_racing_*_skin_tone",
  "1F3CA-* person_swimming_*_skin_tone", "1F3CA-*-200D-2640-FE0F woman_swimming_*_skin_tone",
  "1F3CA-*-200D-2642-FE0F man_swimming_*_skin_tone", "1F3CB-* person_lifting_weights_*_skin_tone",
  "1F3CB-*-200D-2640-FE0F woman_lifting_weights_*_skin_tone",
  "1F3CB-*-200D-2642-FE0F man_lifting_weights_*_skin_tone", "1F3CC-* person_golfing_*_skin_tone",
  "1F3CC-*-200D-2640-FE0F woman_golfing_*_skin_tone",
  "1F3CC-*-200D-2642-FE0F man_golfing_*_skin_tone", "1F442-* ear_*_skin_tone",
  "1F443-* nose_*_skin_tone", "1F446-* backhand_index_pointing_up_*_skin_tone",
  "1F447-* backhand_index_pointing_down_*_skin_tone",
  "1F448-* backhand_index_pointing_left_*_skin_tone",
  "1F449-* backhand_index_pointing_right_*_skin_tone", "1F44A-* oncoming_fist_*_skin_tone",
  "1F44B-* waving_hand_*_skin_tone", "1F44C-* ok_hand_*_skin_tone", "1F44D-* thumbs_up_*_skin_tone",
  "1F44E-* thumbs_down_*_skin_tone", "1F44F-* clapping_hands_*_skin_tone",
  "1F450-* open_hands_*_skin_tone", "1F466-* boy_*_skin_tone", "1F467-* girl_*_skin_tone",
  "1F468-* man_*_skin_tone", "1F468-*-200D-2695-FE0F man_health_worker_*_skin_tone",
  "1F468-*-200D-2696-FE0F man_judge_*_skin_tone", "1F468-*-200D-2708-FE0F man_pilot_*_skin_tone",
  "1F468-*-200D-1F33E man_farmer_*_skin_tone", "1F468-*-200D-1F373 man_cook_*_skin_tone",
  "1F468-*-200D-1F393 man_student_*_skin_tone", "1F468-*-200D-1F3A4 man_singer_*_skin_tone",
  "1F468-*-200D-1F3A8 man_artist_*_skin_tone", "1F468-*-200D-1F3EB man_teacher_*_skin_tone",
  "1F468-*-200D-1F3ED man_factory_worker_*_skin_tone",
  "1F468-*-200D-1F4BB man_technologist_*_skin_tone",
  "1F468-*-200D-1F4BC man_office_worker_*_skin_tone", "1F468-*-200D-1F527 man_mechanic_*_skin_tone",
  "1F468-*-200D-1F52C man_scientist_*_skin_tone", "1F468-*-200D-1F680 man_astronaut_*_skin_tone",
  "1F468-*-200D-1F692 man_firefighter_*_skin_tone", "1F469-* woman_*_skin_tone",
  "1F469-*-200D-2695-FE0F woman_health_worker_*_skin_tone",
  "1F469-*-200D-2696-FE0F woman_judge_*_skin_tone",
  "1F469-*-200D-2708-FE0F woman_pilot_*_skin_tone", "1F469-*-200D-1F33E woman_farmer_*_skin_tone",
  "1F469-*-200D-1F373 woman_cook_*_skin_tone", "1F469-*-200D-1F393 woman_student_*_skin_tone",
  "1F469-*-200D-1F3A4 woman_singer_*_skin_tone", "1F469-*-200D-1F3A8 woman_artist_*_skin_tone",
  "1F469-*-200D-1F3EB woman_teacher_*_skin_tone",
  "1F469-*-200D-1F3ED woman_factory_worker_*_skin_tone",
  "1F469-*-200D-1F4BB woman_technologist_*_skin_tone",
  "1F469-*-200D-1F4BC woman_office_worker_*_skin_tone",
  "1F469-*-200D-1F527 woman_mechanic_*_skin_tone", "1F469-*-200D-1F52C woman_scientist_*_skin_tone",
  "1F469-*-200D-1F680 woman_astronaut_*_skin_tone",
  "1F469-*-200D-1F692 woman_firefighter_*_skin_tone", "1F46E-* police_officer_*_skin_tone",
  "1F46E-*-200D-2640-FE0F woman_police_officer_*_skin_tone",
  "1F46E-*-200D-2642-FE0F man_police_officer_*_skin_tone", "1F470-* bride_with_veil_*_skin_tone",
  "1F471-* blond-haired_person_*_skin_tone",
  "1F471-*-200D-2640-FE0F blond-haired_woman_*_skin_tone",
  "1F471-*-200D-2642-FE0F blond-haired_man_*_skin_tone", "1F472-* man_with_chinese_cap_*_skin_tone",
  "1F473-* person_wearing_turban_*_skin_tone",
  "1F473-*-200D-2640-FE0F woman_wearing_turban_*_skin_tone",
  "1F473-*-200D-2642-FE0F man_wearing_turban_*_skin_tone", "1F474-* old_man_*_skin_tone",
  "1F475-* old_woman_*_skin_tone", "1F476-* baby_*_skin_tone",
  "1F477-* construction_worker_*_skin_tone",
  "1F477-*-200D-2640-FE0F woman_construction_worker_*_skin_tone",
  "1F477-*-200D-2642-FE0F man_construction_worker_*_skin_tone", "1F478-* princess_*_skin_tone",
  "1F47C-* baby_angel_*_skin_tone", "1F481-* person_tipping_hand_*_skin_tone",
  "1F481-*-200D-2640-FE0F woman_tipping_hand_*_skin_tone",
  "1F481-*-200D-2642-FE0F man_tipping_hand_*_skin_tone", "1F482-* guard_*_skin_tone",
  "1F482-*-200D-2640-FE0F woman_guard_*_skin_tone", "1F482-*-200D-2642-FE0F man_guard_*_skin_tone",
  "1F483-* woman_dancing_*_skin_tone", "1F485-* nail_polish_*_skin_tone",
  "1F486-* person_getting_massage_*_skin_tone",
  "1F486-*-200D-2640-FE0F woman_getting_massage_*_skin_tone",
  "1F486-*-200D-2642-FE0F man_getting_massage_*_skin_tone",
  "1F487-* person_getting_haircut_*_skin_tone",
  "1F487-*-200D-2640-FE0F woman_getting_haircut_*_skin_tone",
  "1F487-*-200D-2642-FE0F man_getting_haircut_*_skin_tone", "1F4AA-* flexed_biceps_*_skin_tone",
  "1F574-* man_in_suit_levitating_*_skin_tone", "1F575-* detective_*_skin_tone",
  "1F575-*-200D-2640-FE0F woman_detective_*_skin_tone",
  "1F575-*-200D-2642-FE0F man_detective_*_skin_tone", "1F57A-* man_dancing_*_skin_tone",
  "1F590-* hand_with_fingers_splayed_*_skin_tone", "1F595-* middle_finger_*_skin_tone",
  "1F596-* vulcan_salute_*_skin_tone", "1F645-* person_gesturing_no_*_skin_tone",
  "1F645-*-200D-2640-FE0F woman_gesturing_no_*_skin_tone",
  "1F645-*-200D-2642-FE0F man_gesturing_no_*_skin_tone", "1F646-* person_gesturing_ok_*_skin_tone",
  "1F646-*-200D-2640-FE0F woman_gesturing_ok_*_skin_tone",
  "1F646-*-200D-2642-FE0F man_gesturing_ok_*_skin_tone", "1F647-* person_bowing_*_skin_tone",
  "1F647-*-200D-2640-FE0F woman_bowing_*_skin_tone",
  "1F647-*-200D-2642-FE0F man_bowing_*_skin_tone", "1F64B-* person_raising_hand_*_skin_tone",
  "1F64B-*-200D-2640-FE0F woman_raising_hand_*_skin_tone",
  "1F64B-*-200D-2642-FE0F man_raising_hand_*_skin_tone", "1F64C-* raising_hands_*_skin_tone",
  "1F64D-* person_frowning_*_skin_tone", "1F64D-*-200D-2640-FE0F woman_frowning_*_skin_tone",
  "1F64D-*-200D-2642-FE0F man_frowning_*_skin_tone", "1F64E-* person_pouting_*_skin_tone",
  "1F64E-*-200D-2640-FE0F woman_pouting_*_skin_tone",
  "1F64E-*-200D-2642-FE0F man_pouting_*_skin_tone", "1F64F-* folded_hands_*_skin_tone",
  "1F6A3-* person_rowing_boat_*_skin_tone", "1F6A3-*-200D-2640-FE0F woman_rowing_boat_*_skin_tone",
  "1F6A3-*-200D-2642-FE0F man_rowing_boat_*_skin_tone", "1F6B4-* person_biking_*_skin_tone",
  "1F6B4-*-200D-2640-FE0F woman_biking_*_skin_tone",
  "1F6B4-*-200D-2642-FE0F man_biking_*_skin_tone", "1F6B5-* person_mountain_biking_*_skin_tone",
  "1F6B5-*-200D-2640-FE0F woman_mountain_biking_*_skin_tone",
  "1F6B5-*-200D-2642-FE0F man_mountain_biking_*_skin_tone", "1F6B6-* person_walking_*_skin_tone",
  "1F6B6-*-200D-2640-FE0F woman_walking_*_skin_tone",
  "1F6B6-*-200D-2642-FE0F man_walking_*_skin_tone", "1F6C0-* person_taking_bath_*_skin_tone",
  "1F6CC-* person_in_bed_*_skin_tone", "1F918-* sign_of_the_horns_*_skin_tone",
  "1F919-* call_me_hand_*_skin_tone", "1F91A-* raised_back_of_hand_*_skin_tone",
  "1F91B-* left-facing_fist_*_skin_tone", "1F91C-* right-facing_fist_*_skin_tone",
  "1F91E-* crossed_fingers_*_skin_tone", "1F91F-* love-you_gesture_*_skin_tone",
  "1F926-* person_facepalming_*_skin_tone", "1F926-*-200D-2640-FE0F woman_facepalming_*_skin_tone",
  "1F926-*-200D-2642-FE0F man_facepalming_*_skin_tone", "1F930-* pregnant_woman_*_skin_tone",
  "1F931-* breast-feeding_*_skin_tone", "1F932-* palms_up_together_*_skin_tone",
  "1F933-* selfie_*_skin_tone", "1F934-* prince_*_skin_tone", "1F935-* man_in_tuxedo_*_skin_tone",
  "1F936-* mrs._claus_*_skin_tone", "1F937-* person_shrugging_*_skin_tone",
  "1F937-*-200D-2640-FE0F woman_shrugging_*_skin_tone",
  "1F937-*-200D-2642-FE0F man_shrugging_*_skin_tone", "1F938-* person_cartwheeling_*_skin_tone",
  "1F938-*-200D-2640-FE0F woman_cartwheeling_*_skin_tone",
  "1F938-*-200D-2642-FE0F man_cartwheeling_*_skin_tone", "1F939-* person_juggling_*_skin_tone",
  "1F939-*-200D-2640-FE0F woman_juggling_*_skin_tone",
  "1F939-*-200D-2642-FE0F man_juggling_*_skin_tone",
  "1F93D-* person_playing_water_polo_*_skin_tone",
  "1F93D-*-200D-2640-FE0F woman_playing_water_polo_*_skin_tone",
  "1F93D-*-200D-2642-FE0F man_playing_water_polo_*_skin_tone",
  "1F93E-* person_playing_handball_*_skin_tone",
  "1F93E-*-200D-2640-FE0F woman_playing_handball_*_skin_tone",
  "1F93E-*-200D-2642-FE0F man_playing_handball_*_skin_tone", "1F9D1-* adult_*_skin_tone",
  "1F9D2-* child_*_skin_tone", "1F9D3-* older_adult_*_skin_tone",
  "1F9D4-* bearded_person_*_skin_tone", "1F9D5-* woman_with_headscarf_*_skin_tone",
  "1F9D6-* person_in_steamy_room_*_skin_tone",
  "1F9D6-*-200D-2640-FE0F woman_in_steamy_room_*_skin_tone",
  "1F9D6-*-200D-2642-FE0F man_in_steamy_room_*_skin_tone", "1F9D7-* person_climbing_*_skin_tone",
  "1F9D7-*-200D-2640-FE0F woman_climbing_*_skin_tone",
  "1F9D7-*-200D-2642-FE0F man_climbing_*_skin_tone", "1F9D8-* person_in_lotus_position_*_skin_tone",
  "1F9D8-*-200D-2640-FE0F woman_in_lotus_position_*_skin_tone",
  "1F9D8-*-200D-2642-FE0F man_in_lotus_position_*_skin_tone", "1F9D9-* mage_*_skin_tone",
  "1F9D9-*-200D-2640-FE0F woman_mage_*_skin_tone", "1F9D9-*-200D-2642-FE0F man_mage_*_skin_tone",
  "1F9DA-* fairy_*_skin_tone", "1F9DA-*-200D-2640-FE0F woman_fairy_*_skin_tone",
  "1F9DA-*-200D-2642-FE0F man_fairy_*_skin_tone", "1F9DB-* vampire_*_skin_tone",
  "1F9DB-*-200D-2640-FE0F woman_vampire_*_skin_tone",
  "1F9DB-*-200D-2642-FE0F man_vampire_*_skin_tone", "1F9DC-* merperson_*_skin_tone",
  "1F9DC-*-200D-2640-FE0F mermaid_*_skin_tone", "1F9DC-*-200D-2642-FE0F merman_*_skin_tone",
  "1F9DD-* elf_*_skin_tone", "1F9DD-*-200D-2640-FE0F woman_elf_*_skin_tone",
  "1F9DD-*-200D-2642-FE0F man_elf_*_skin_tone"]

end SwitchTrace.Pictograph
